import Courier.Proofs.Text.Blank
import Courier.Template.FieldPath
/-
The grammar of field paths. A path is what stands between the dots of its text, blanks at the ends
left out, and none of these segments is empty. A first segment that names the location is not one
of the path's own. So a path may be written with the location in front of it whatever its segments
are, and without it unless the first of them is called like the location.
-/

namespace Courier.FieldPath

open Text (strip trim Trimmed)

/-- What stands between the dots of a text. -/
def segmentsOf (t : String) : List String := (t.toList.splitOn '.').map String.ofList

/-- What is left of segments when the first one names the location. -/
def unlocated (segments : List String) : List String :=
  if segments.head? = some "body" then segments.tail else segments

/-! ## Dots -/

theorem splitDots_eq (cs : List Char) : splitDots cs = cs.splitOn '.' := by
  induction cs with
  | nil => rfl
  | cons c r ih =>
    rw [splitDots, ih, List.splitOn_eq_splitOnP, List.splitOn_eq_splitOnP, List.splitOnP_cons_eq_if_modifyHead]
    cases hr : r.splitOnP (· == '.') with
    | nil => exact absurd hr (List.splitOnP_ne_nil _ r)
    | cons piece more => by_cases hc : c = '.' <;> simp [hc]

theorem segmentsOf_located (t : String) : segmentsOf ("body." ++ t) = "body" :: segmentsOf t := by
  have hdotless : ∀ c ∈ "body".toList, (c == '.') = false := by simp
  have hsplit := List.splitOnP_append_cons_of_forall_mem hdotless '.' rfl t.toList
  have hbody : ("body." ++ t).toList = "body".toList ++ '.' :: t.toList := by simp
  rw [segmentsOf, List.splitOn_eq_splitOnP, hbody, hsplit, List.map_cons, String.ofList_toList, segmentsOf,
    List.splitOn_eq_splitOnP]

/-- A text is its segments with dots between them. -/
theorem intercalate_segmentsOf (t : String) : ".".intercalate (segmentsOf t) = t := by
  rw [← String.toList_inj, String.toList_intercalate, segmentsOf, List.map_map,
    show String.toList ∘ String.ofList = id from funext fun _ => String.toList_ofList, List.map_id]
  exact List.intercalate_splitOn '.'

/-! ## Blanks -/

theorem trimmed_strip (p : String) : Trimmed (strip p).toList := by
  rw [strip, String.toList_ofList]
  exact Text.trimmed_trim _

theorem strip_eq_self {t : String} (h : Trimmed t.toList) : strip t = t := by
  rw [strip, Text.trim_eq_self h, String.ofList_toList]

/-- Nothing is taken off a path that has lost its blanks and is written with its location. -/
theorem strip_located {t : String} (h : Trimmed t.toList) (hne : t ≠ "") : strip ("body." ++ t) = "body." ++ t := by
  refine strip_eq_self ⟨fun c hc => ?_, fun c hc => ?_⟩
  · obtain rfl : 'b' = c := by simpa using hc
    decide
  · rw [String.toList_append, List.getLast?_append] at hc
    cases hlast : t.toList.getLast? with
    | none => exact absurd (by simpa using hlast) hne
    | some d =>
      obtain rfl : d = c := by simpa [hlast] using hc
      exact h.last d hlast

/-! ## Reading -/

theorem ofPieces_eq (pieces : List (List Char)) :
    ofPieces pieces = ⟨.body, unlocated (pieces.map String.ofList)⟩ := by
  cases pieces with
  | nil => rfl
  | cons first more => by_cases h : String.ofList first = "body" <;> simp [ofPieces, Location.ofName?, unlocated, h]

/-- What a path is read as, by the segments of its text without the blanks. -/
theorem parse_eq (p : String) :
    parse p = if strip p = "" ∨ "" ∈ segmentsOf (strip p) then .error (.invalidPath (strip p))
      else .ok ⟨.body, unlocated (segmentsOf (strip p))⟩ := by
  have hempty : (trim p.toList).isEmpty = true ↔ strip p = "" := by simp [strip]
  have hsegment : ((splitDots (trim p.toList)).any List.isEmpty) = true ↔ "" ∈ segmentsOf (strip p) := by
    simp [segmentsOf, strip, splitDots_eq]
  rw [parse, parseChars]
  dsimp only
  by_cases hnone : strip p = ""
  · rw [if_pos (hempty.2 hnone), if_pos (.inl hnone), hnone]
  rw [if_neg (hempty.not.2 hnone)]
  by_cases hgap : "" ∈ segmentsOf (strip p)
  · rw [if_pos (hsegment.2 hgap), if_pos (.inr hgap), strip]
  · rw [if_neg (hsegment.not.2 hgap), if_neg (not_or.2 ⟨hnone, hgap⟩), ofPieces_eq, splitDots_eq, segmentsOf, strip,
      String.toList_ofList]

section

variable {p t : String} {path : FieldPath}

theorem parse_ok_iff : (∃ path, parse p = .ok path) ↔ strip p ≠ "" ∧ "" ∉ segmentsOf (strip p) := by
  rw [parse_eq, ← not_or]
  split
  · next h => exact iff_of_false (fun ⟨_, hpath⟩ => by cases hpath) (not_not.2 h)
  · next h => exact iff_of_true ⟨_, rfl⟩ h

theorem parse_ok (h : parse p = .ok path) : path = ⟨.body, unlocated (segmentsOf (strip p))⟩ := by
  have hgood := parse_ok_iff.1 ⟨path, h⟩
  rw [parse_eq, if_neg (not_or.2 hgood)] at h
  exact (Except.ok.inj h).symm

theorem parse_strip (p : String) : parse (strip p) = parse p := by
  rw [parse_eq, parse_eq, strip_eq_self (trimmed_strip p)]

/-- All segments of a path that is written with its location are its own. -/
theorem parse_located (hpath : parse p = .ok path) :
    parse ("body." ++ strip p) = .ok ⟨.body, segmentsOf (strip p)⟩ := by
  obtain ⟨hne, hgap⟩ := parse_ok_iff.1 ⟨path, hpath⟩
  rw [parse_eq, strip_located (trimmed_strip p) hne, segmentsOf_located, if_neg (by simp [hgap]), unlocated,
    List.head?_cons, if_pos rfl, List.tail_cons]

theorem unlocated_eq_self_iff {segments : List String} : segments = unlocated segments ↔ segments.head? ≠ some "body" := by
  rw [unlocated]
  split
  · next hfirst =>
    obtain ⟨own, rfl⟩ := List.head?_eq_some_iff.1 hfirst
    simp
  · next hfirst => exact iff_of_true rfl hfirst

theorem parse_located_eq_iff (hpath : parse p = .ok path) :
    parse ("body." ++ strip p) = parse p ↔ (segmentsOf (strip p)).head? ≠ some "body" := by
  rw [parse_located hpath, hpath, parse_ok hpath, ← unlocated_eq_self_iff]
  simp

/-- The segments of a path are written behind its location as the path itself, if it has any. -/
theorem parse_rejoined (hpath : parse p = .ok path) (hne : path.segments ≠ []) :
    parse ("body." ++ ".".intercalate path.segments) = .ok path := by
  by_cases hfirst : (segmentsOf (strip p)).head? = some "body"
  · obtain ⟨own, hsegments⟩ := List.head?_eq_some_iff.1 hfirst
    have hown : path.segments = own := by
      rw [parse_ok hpath, hsegments]
      rfl
    rw [hown] at hne ⊢
    have hlocation : "body" ++ "." = "body." := by decide
    rw [← hpath, ← parse_strip p, ← intercalate_segmentsOf (strip p), hsegments,
      String.intercalate_cons_of_ne_nil hne, hlocation]
  · have hown : path.segments = segmentsOf (strip p) := by
      rw [parse_ok hpath, ← unlocated_eq_self_iff.2 hfirst]
    rw [hown, intercalate_segmentsOf, (parse_located_eq_iff hpath).2 hfirst, hpath]

end

/-- **How paths are written.** A path can be read exactly if something is left of it without its
blanks and none of its segments is empty. Behind the location all of these segments are the path's
own, which makes no difference unless the first of them is called like the location. So every path
that has a segment is read again from its segments, written behind the location. -/
theorem parse_shorthand (p : String) :
    ((∃ path, parse p = .ok path) ↔ strip p ≠ "" ∧ "" ∉ segmentsOf (strip p)) ∧
    ((∃ path, parse p = .ok path) → parse ("body." ++ strip p) = .ok ⟨.body, segmentsOf (strip p)⟩ ∧
      (parse ("body." ++ strip p) = parse p ↔ (segmentsOf (strip p)).head? ≠ some "body")) ∧
    ∀ path, parse p = .ok path → path.segments ≠ [] → parse ("body." ++ ".".intercalate path.segments) = .ok path :=
  ⟨parse_ok_iff, fun ⟨_, hpath⟩ => ⟨parse_located hpath, parse_located_eq_iff hpath⟩, fun _ => parse_rejoined⟩

/-- A path whose first key is called like the location, with blanks at its ends and within. -/
def sampleText : String := " body.body. title\t"

theorem sample_parse_shorthand :
    parse sampleText = .ok ⟨.body, ["body", " title"]⟩ ∧ parse ("body." ++ strip sampleText) ≠ parse sampleText ∧
    parse ("body." ++ ".".intercalate ["body", " title"]) = .ok ⟨.body, ["body", " title"]⟩ := by
  have hparse : parse sampleText = .ok ⟨.body, ["body", " title"]⟩ := rfl
  obtain ⟨-, hlocated, hrejoined⟩ := parse_shorthand sampleText
  have hfirst : (segmentsOf (strip sampleText)).head? = some "body" := rfl
  have hsame := (hlocated ⟨_, hparse⟩).2
  have hagain := hrejoined _ hparse (List.cons_ne_nil _ _)
  refine ⟨hparse, ?_, hagain⟩
  rw [Ne, hsame]
  exact not_not.2 hfirst

end Courier.FieldPath
