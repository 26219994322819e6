import Mathlib.Data.List.TakeWhile
import Courier.Text.Blank
/-
What trimming leaves. Blanks around a text are taken off, however many there are, and a text that
neither starts nor ends with one is left as it is; what is left is always such a text.
-/

namespace Courier.Text

/-- Whether a text is nothing but blanks. -/
def Blank (cs : List Char) : Prop := ∀ c ∈ cs, isBlank c = true

instance (cs : List Char) : Decidable (Blank cs) := decidable_of_iff (cs.all isBlank = true) List.all_eq_true

/-- Whether a text neither starts nor ends with a blank. -/
structure Trimmed (cs : List Char) : Prop where
  start : ∀ c ∈ cs.head?, isBlank c = false
  last : ∀ c ∈ cs.getLast?, isBlank c = false

variable {cs before after : List Char}

theorem trimStart_blank (h : Blank before) (cs : List Char) : trimStart (before ++ cs) = trimStart cs := by
  rw [trimStart_eq_dropWhile, trimStart_eq_dropWhile, List.dropWhile_append_of_pos h]

theorem trimStart_eq_self (h : ∀ c ∈ cs.head?, isBlank c = false) : trimStart cs = cs := by
  cases cs with
  | nil => rfl
  | cons c r => exact trimStart_of_head (h c rfl)

theorem head_trimStart (cs : List Char) : ∀ c ∈ (trimStart cs).head?, isBlank c = false := by
  rw [trimStart_eq_dropWhile]
  intro c hc
  have hhead := List.head?_dropWhile_not isBlank cs
  rwa [Option.mem_def.1 hc] at hhead

theorem trimStart_suffix (cs : List Char) : trimStart cs <:+ cs :=
  trimStart_eq_dropWhile cs ▸ List.dropWhile_suffix isBlank

theorem trimEnd_prefix (cs : List Char) : trimEnd cs <+: cs := by
  have h := List.reverse_prefix.2 (trimStart_suffix cs.reverse)
  rwa [List.reverse_reverse] at h

theorem trimmed_trim (cs : List Char) : Trimmed (trim cs) where
  start c hc := by
    obtain ⟨r, hr⟩ := trimEnd_prefix (trimStart cs)
    refine head_trimStart cs c ?_
    rw [← hr, List.head?_append, show (trimEnd (trimStart cs)).head? = some c from hc]
    rfl
  last c hc := by
    rw [trim, trimEnd, List.getLast?_reverse] at hc
    exact head_trimStart _ c hc

/-- Whatever blanks stand around a text, they are all that is taken off it. -/
theorem trim_around (h : Trimmed cs) (hbefore : Blank before) (hafter : Blank after) :
    trim (before ++ cs ++ after) = cs := by
  rw [trim, List.append_assoc, trimStart_blank hbefore]
  cases cs with
  | nil =>
    have hnone := trimStart_blank hafter []
    rw [List.append_nil] at hnone
    rw [List.nil_append, hnone]
    rfl
  | cons c r =>
    have hafter : Blank after.reverse := fun d hd => hafter d (List.mem_reverse.1 hd)
    have hlast : trimStart (c :: r).reverse = (c :: r).reverse :=
      trimStart_eq_self (List.head?_reverse ▸ h.last)
    rw [List.cons_append, trimStart_of_head (h.start c rfl), trimEnd, ← List.cons_append, List.reverse_append,
      trimStart_blank hafter, hlast, List.reverse_reverse]

theorem trim_eq_self (h : Trimmed cs) : trim cs = cs := by
  have hnone : Blank [] := List.forall_mem_nil _
  have haround := trim_around h hnone hnone
  rwa [List.nil_append, List.append_nil] at haround

theorem exists_blank_trimStart (cs : List Char) : ∃ before, Blank before ∧ cs = before ++ trimStart cs := by
  rw [trimStart_eq_dropWhile]
  exact ⟨cs.takeWhile isBlank, fun _ hc => List.mem_takeWhile_imp hc, List.takeWhile_append_dropWhile.symm⟩

theorem exists_blank_trimEnd (cs : List Char) : ∃ after, Blank after ∧ cs = trimEnd cs ++ after := by
  obtain ⟨before, hbefore, hcs⟩ := exists_blank_trimStart cs.reverse
  refine ⟨before.reverse, fun c hc => hbefore c (List.mem_reverse.1 hc), ?_⟩
  rw [trimEnd, ← List.reverse_append, ← hcs, List.reverse_reverse]

/-- Nothing but blanks is trimmed to nothing. -/
theorem trim_eq_nil_iff : trim cs = [] ↔ Blank cs := by
  constructor
  · intro h
    obtain ⟨before, hbefore, hcs⟩ := exists_blank_trimStart cs
    obtain ⟨after, hafter, hrest⟩ := exists_blank_trimEnd (trimStart cs)
    rw [← trim, h, List.nil_append] at hrest
    rw [hcs, hrest]
    exact fun c hc => (List.mem_append.1 hc).elim (hbefore c) (hafter c)
  · intro h
    have hnone : Trimmed [] := ⟨by simp, by simp⟩
    have haround := trim_around hnone h (List.forall_mem_nil _)
    rwa [List.append_nil, List.append_nil] at haround

end Courier.Text
