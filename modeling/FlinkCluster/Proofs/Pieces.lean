import FlinkCluster.Setting
import Mathlib.Data.List.DropRight

/-!
# Lists in one text

A list setting is stored as its items joined by a separator, and is read back by cutting at the
separator, removing the blanks around each piece and leaving the empty pieces out. Reading what was
stored is therefore not the identity:

* `trimmedPieces_join`: what is read is each item cut into its own trimmed pieces.
* `flatMap_trimmedPieces_eq_self_iff`: that is the list that was stored exactly when every item
  `IsPiece`, that is, when it is not empty, has no blank at either end and holds no separator.
-/

set_option autoImplicit false

namespace FlinkCluster

/-! ## Stripping -/

namespace Text

variable {p : Char → Bool} {cs : List Char}

theorem stripChars_prefix_dropWhile : stripChars p cs <+: cs.dropWhile p :=
  List.rdropWhile_prefix p (cs.dropWhile p)

theorem mem_of_mem_stripChars {c : Char} (h : c ∈ stripChars p cs) : c ∈ cs :=
  List.dropWhile_sublist p |>.mem (stripChars_prefix_dropWhile.mem h)

/-- A stripped list does not start with a character of the class. -/
theorem dropWhile_stripChars : (stripChars p cs).dropWhile p = stripChars p cs := by
  rw [List.dropWhile_eq_self_iff]
  intro hlen
  have hlen' : 0 < (cs.dropWhile p).length :=
    Nat.lt_of_lt_of_le hlen stripChars_prefix_dropWhile.length_le
  rw [stripChars_prefix_dropWhile.getElem hlen]
  exact List.dropWhile_get_zero_not p cs hlen'

theorem rdropWhile_stripChars : (stripChars p cs).rdropWhile p = stripChars p cs :=
  List.rdropWhile_idempotent p (cs.dropWhile p)

theorem stripChars_idem : stripChars p (stripChars p cs) = stripChars p cs := by
  have h : stripChars p (stripChars p cs) = (stripChars p cs).rdropWhile p :=
    congrArg (List.rdropWhile p) dropWhile_stripChars
  rw [h, rdropWhile_stripChars]

theorem forall_of_stripChars_eq_nil (h : stripChars p cs = []) : ∀ c ∈ cs, p c = true := by
  intro c hc
  rw [stripChars, List.reverse_eq_nil_iff, List.dropWhile_eq_nil_iff] at h
  rw [← List.takeWhile_append_dropWhile (p := p) (l := cs), List.mem_append] at hc
  obtain hc | hc := hc
  · exact List.mem_takeWhile_imp hc
  · exact h c (List.mem_reverse.2 hc)

theorem toList_strip (s : String) : (strip s).toList = stripChars isBlank s.toList := by
  rw [strip, String.toList_ofList]

theorem strip_strip (s : String) : strip (strip s) = strip s := by
  simp only [strip, String.toList_ofList, stripChars_idem]

theorem reverse_dropWhile_stripChars :
    (stripChars p cs).reverse.dropWhile p = (stripChars p cs).reverse :=
  List.reverse_injective (rdropWhile_stripChars.trans (List.reverse_reverse _).symm)

theorem dropWhile_append_cons {c : Char} {ds : List Char} (h : cs.dropWhile p = cs)
    (hc : p c = false) : (cs ++ c :: ds).dropWhile p = cs ++ c :: ds := by
  rw [List.dropWhile_append, h]
  cases cs with
  | nil => exact List.dropWhile_cons_of_neg (by simp [hc])
  | cons b cs => rfl

/-- A character that is not blank joins two stripped lists to a stripped one. -/
theorem stripChars_append_cons {c : Char} {ds : List Char} (h : stripChars p cs = cs)
    (hc : p c = false) (h' : stripChars p ds = ds) :
    stripChars p (cs ++ c :: ds) = cs ++ c :: ds := by
  have hleft : cs.dropWhile p = cs := by
    rw [← h]
    exact dropWhile_stripChars
  have hright : ds.reverse.dropWhile p = ds.reverse := by
    rw [← h']
    exact reverse_dropWhile_stripChars
  rw [stripChars, dropWhile_append_cons hleft hc, List.reverse_append, List.reverse_cons,
    List.append_assoc, List.singleton_append, dropWhile_append_cons hright hc]
  simp

theorem mem_of_mem_strip {c : Char} {s : String} (h : c ∈ (strip s).toList) : c ∈ s.toList := by
  rw [toList_strip] at h
  exact mem_of_mem_stripChars h

/-! ## Cutting and joining -/

theorem split_of_not_mem {sep : Char} {s : String} (h : sep ∉ s.toList) : split sep s = [s] := by
  simp [split, List.splitOn_eq_singleton h]

theorem not_mem_of_mem_splitOn {sep : Char} {cs : List Char} :
    ∀ piece ∈ cs.splitOn sep, sep ∉ piece := by
  induction cs with
  | nil => simp
  | cons c cs ih =>
    intro piece hpiece
    rw [List.splitOn_cons_eq_if_modifyHead] at hpiece
    split at hpiece
    · rcases List.mem_cons.1 hpiece with rfl | hpiece
      · exact List.not_mem_nil
      · exact ih piece hpiece
    · rename_i hc
      obtain ⟨first, rest, hsplit⟩ := List.exists_cons_of_ne_nil (List.splitOn_ne_nil sep cs)
      rw [hsplit] at hpiece ih
      rcases List.mem_cons.1 hpiece with rfl | hpiece
      · have hne : sep ≠ c := fun h => hc (beq_iff_eq.2 h.symm)
        simp [hne, ih first List.mem_cons_self]
      · exact ih piece (List.mem_cons_of_mem _ hpiece)

theorem not_mem_of_mem_split {sep : Char} {s piece : String} (h : piece ∈ split sep s) :
    sep ∉ piece.toList := by
  obtain ⟨cs, hcs, rfl⟩ := List.mem_map.1 h
  rw [String.toList_ofList]
  exact not_mem_of_mem_splitOn cs hcs

theorem mem_intercalate {sep l : List Char} {ls : List (List Char)} {c : Char} (h : l ∈ ls)
    (hc : c ∈ l) : c ∈ List.intercalate sep ls := by
  induction ls with
  | nil => cases h
  | cons m ls ih =>
    cases ls with
    | nil => simpa [List.mem_singleton.1 h] using hc
    | cons n ls =>
      rw [List.intercalate_cons_cons, List.append_assoc]
      obtain rfl | h := List.mem_cons.1 h
      · exact List.mem_append_left _ hc
      · exact List.mem_append_right _ (List.mem_append_right _ (ih h))

theorem mem_of_mem_intercalate {sep : List Char} {ls : List (List Char)} {c : Char}
    (h : c ∈ List.intercalate sep ls) : c ∈ sep ∨ ∃ l ∈ ls, c ∈ l := by
  induction ls with
  | nil => cases h
  | cons m ls ih =>
    cases ls with
    | nil => exact .inr ⟨m, List.mem_cons_self, by simpa using h⟩
    | cons n ls =>
      rw [List.intercalate_cons_cons, List.append_assoc, List.mem_append, List.mem_append] at h
      obtain h | h | h := h
      · exact .inr ⟨m, List.mem_cons_self, h⟩
      · exact .inl h
      · exact (ih h).imp_right fun ⟨l, hl, hc⟩ => ⟨l, List.mem_cons_of_mem m hl, hc⟩

theorem mem_of_mem_join {sep : String} {ss : List String} {c : Char}
    (h : c ∈ (join sep ss).toList) : c ∈ sep.toList ∨ ∃ s ∈ ss, c ∈ s.toList := by
  rw [join, String.toList_ofList] at h
  refine (mem_of_mem_intercalate h).imp_right fun ⟨l, hl, hc⟩ => ?_
  obtain ⟨s, hs, rfl⟩ := List.mem_map.1 hl
  exact ⟨s, hs, hc⟩

theorem mem_of_mem_split {sep c : Char} {s piece : String} (h : piece ∈ split sep s)
    (hc : c ∈ piece.toList) : c ∈ s.toList := by
  obtain ⟨cs, hcs, rfl⟩ := List.mem_map.1 h
  rw [String.toList_ofList] at hc
  have hmem : c ∈ List.intercalate [sep] (s.toList.splitOn sep) := mem_intercalate hcs hc
  rwa [List.intercalate_splitOn] at hmem

theorem splitOn_intercalate_flatMap {sep : Char} {ls : List (List Char)} (h : ls ≠ []) :
    (List.intercalate [sep] ls).splitOn sep = ls.flatMap (·.splitOn sep) := by
  induction ls with
  | nil => exact absurd rfl h
  | cons l ls ih =>
    cases ls with
    | nil => simp
    | cons m ls =>
      rw [List.intercalate_cons_cons, List.append_assoc, List.singleton_append,
        List.splitOn_append_cons_self, ih (List.cons_ne_nil m ls), ← List.flatMap_cons]

/-- Cutting what was joined cuts each text for itself. -/
theorem split_join {sep : Char} {ss : List String} (h : ss ≠ []) :
    split sep (join (String.singleton sep) ss) = ss.flatMap (split sep) := by
  have hne : ss.map String.toList ≠ [] := by simpa using h
  simp only [split, join, String.toList_ofList, String.toList_singleton,
    splitOn_intercalate_flatMap hne, List.flatMap_map, List.map_flatMap]
  rfl

theorem cut?_eq_some_iff {sep : Char} {s key rest : String} :
    cut? sep s = some (key, rest) ↔
      s = key ++ String.singleton sep ++ rest ∧ sep ∉ key.toList := by
  have hcut : cut? sep s = some (key, rest) ↔
      cutChars? sep s.toList = some (key.toList, rest.toList) := by
    rw [cut?, Option.map_eq_some_iff]
    constructor
    · rintro ⟨⟨a, b⟩, h, heq⟩
      obtain ⟨rfl, rfl⟩ := Prod.mk.inj heq
      simpa using h
    · exact fun h => ⟨_, h, by simp⟩
  rw [hcut, cutChars?_eq_some_iff, ← String.toList_inj]
  simp

end Text

/-! ## Pieces -/

/-- A text that survives in a list whose items stand between separators. -/
def IsPiece (sep : Char) (s : String) : Prop := s ≠ "" ∧ Text.strip s = s ∧ sep ∉ s.toList

instance (sep : Char) (s : String) : Decidable (IsPiece sep s) :=
  inferInstanceAs (Decidable (_ ∧ _ ∧ _))

theorem isPiece_of_mem_trimmedPieces {sep : Char} {raw s : String}
    (h : s ∈ trimmedPieces sep raw) : IsPiece sep s := by
  obtain ⟨hs, hne⟩ := List.mem_filter.1 h
  obtain ⟨piece, hpiece, rfl⟩ := List.mem_map.1 hs
  exact ⟨by simpa using hne, Text.strip_strip piece,
    fun hc => Text.not_mem_of_mem_split hpiece (Text.mem_of_mem_strip hc)⟩

theorem mem_of_mem_trimmedPieces {sep c : Char} {raw s : String} (h : s ∈ trimmedPieces sep raw)
    (hc : c ∈ s.toList) : c ∈ raw.toList := by
  obtain ⟨piece, hpiece, rfl⟩ := List.mem_map.1 (List.mem_filter.1 h).1
  exact Text.mem_of_mem_split hpiece (Text.mem_of_mem_strip hc)

theorem trimmedPieces_of_isPiece {sep : Char} {s : String} (h : IsPiece sep s) :
    trimmedPieces sep s = [s] := by
  obtain ⟨hne, hstrip, hsep⟩ := h
  simp [trimmedPieces, Text.split_of_not_mem hsep, hstrip, hne]

theorem trimmedPieces_empty (sep : Char) : trimmedPieces sep "" = [] := by
  simp [trimmedPieces, Text.split, Text.strip, Text.stripChars]

/-- Reading a stored list cuts each item into its trimmed pieces. -/
theorem trimmedPieces_join (sep : Char) (ss : List String) :
    trimmedPieces sep (Text.join (String.singleton sep) ss) = ss.flatMap (trimmedPieces sep) := by
  cases ss with
  | nil => exact trimmedPieces_empty sep
  | cons s ss =>
    simp only [trimmedPieces, Text.split_join (List.cons_ne_nil s ss), List.map_flatMap,
      List.filter_flatMap]
    rfl

/-- A list survives being stored exactly when each of its items is a piece. -/
theorem flatMap_trimmedPieces_eq_self_iff {sep : Char} {ss : List String} :
    ss.flatMap (trimmedPieces sep) = ss ↔ ∀ s ∈ ss, IsPiece sep s := by
  constructor
  · intro h s hs
    rw [← h] at hs
    obtain ⟨raw, -, hraw⟩ := List.mem_flatMap.1 hs
    exact isPiece_of_mem_trimmedPieces hraw
  · intro h
    calc ss.flatMap (trimmedPieces sep) = ss.flatMap (fun s => [s]) :=
          List.flatMap_congr fun s hs => trimmedPieces_of_isPiece (h s hs)
      _ = ss := List.flatMap_pure_eq_map id ss |>.trans (List.map_id ss)

theorem stored_ofTexts (ss : List String) :
    (Value.ofTexts ss).stored = Text.join (String.singleton itemSeparator) ss := by
  simp only [Value.ofTexts, Value.stored, List.map_map]
  congr 1
  exact List.map_id ss

end FlinkCluster
