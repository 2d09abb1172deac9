/-!
# Cutting and joining

Texts are cut at a separator character and joined by a separator text. All functions go through
the list of characters, so that the laws of lists apply.
-/

set_option autoImplicit false

namespace FlinkCluster.Text

/-- The pieces of `s` between the occurrences of `sep`; one piece if there is none. -/
def split (sep : Char) (s : String) : List String :=
  (s.toList.splitOn sep).map String.ofList

/-- The pieces joined by `sep`. -/
def join (sep : String) (pieces : List String) : String :=
  String.ofList (List.intercalate sep.toList (pieces.map String.toList))

/-- The text before and after the first `sep`. -/
def cutChars? (sep : Char) : List Char → Option (List Char × List Char)
  | [] => none
  | c :: r =>
    if c = sep then some ([], r) else (cutChars? sep r).map (fun p => (c :: p.1, p.2))

/-- The text before and after the first `sep`, if there is one. -/
def cut? (sep : Char) (s : String) : Option (String × String) :=
  (cutChars? sep s.toList).map (fun p => (String.ofList p.1, String.ofList p.2))

/-- The rest of `s` after the leading text `lead`, if `s` starts so. -/
def dropLeading? (lead s : String) : Option String :=
  if lead.toList.isPrefixOf s.toList then some (String.ofList (s.toList.drop lead.length))
  else none

/-! ## Laws -/

theorem dropLeading?_eq_some_iff {lead s rest : String} :
    dropLeading? lead s = some rest ↔ s = lead ++ rest := by
  unfold dropLeading?
  constructor
  · intro h
    split at h
    · rename_i hlead
      obtain ⟨cs, hcs⟩ := List.isPrefixOf_iff_prefix.1 hlead
      rw [← Option.some.inj h, ← hcs, ← String.length_toList, List.drop_left]
      refine String.toList_inj.1 ?_
      rw [String.toList_append, String.toList_ofList, hcs]
    · cases h
  · intro h
    subst h
    have hlead : lead.toList.isPrefixOf (lead ++ rest).toList = true := by
      rw [String.toList_append]
      exact List.isPrefixOf_iff_prefix.2 (List.prefix_append _ _)
    rw [if_pos hlead, String.toList_append, ← String.length_toList, List.drop_left,
      String.ofList_toList]

theorem cutChars?_eq_some_iff {sep : Char} {cs a b : List Char} :
    cutChars? sep cs = some (a, b) ↔ cs = a ++ sep :: b ∧ sep ∉ a := by
  induction cs generalizing a with
  | nil => simp [cutChars?]
  | cons c r ih =>
    by_cases h : c = sep
    · subst h
      cases a with
      | nil => simp [cutChars?, eq_comm]
      | cons x a => simp [cutChars?]; grind
    · cases a with
      | nil => simp [cutChars?, h]
      | cons x a =>
        simp only [cutChars?, h, ↓reduceIte, Option.map_eq_some_iff, Prod.mk.injEq, Prod.exists,
          List.cons.injEq, List.cons_append, List.mem_cons]
        constructor
        · rintro ⟨a', b', hab, ⟨rfl, rfl⟩, rfl⟩
          obtain ⟨rfl, hn⟩ := ih.1 hab
          exact ⟨⟨rfl, rfl⟩, fun hm => hm.elim (fun e => h e.symm) hn⟩
        · rintro ⟨⟨rfl, rfl⟩, hn⟩
          exact ⟨a, b, ih.2 ⟨rfl, fun hm => hn (.inr hm)⟩, ⟨rfl, rfl⟩, rfl⟩

end FlinkCluster.Text
