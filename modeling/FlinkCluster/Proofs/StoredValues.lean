import FlinkCluster.Proofs.EffectiveLayers
import FlinkCluster.Proofs.Pieces

/-!
# Values that are read back

Lists, maps and lists of maps are stored as one text, without a way to write a separator or a blank
at an end. `Configuration.get_put_iff` says which values are read back as they were stored: lists of
pieces, maps whose entries are all `IsEntry`, and lists of such maps that are not empty and hold no
separator of items. What is read from a list or a map setting is always such a value
(`isPiece_of_mem_trimmedPieces`, `isStorable_of_readMap`), while from a list of maps an empty one
can be read, which is not stored.
-/

set_option autoImplicit false

namespace FlinkCluster

/-! ## Tables -/

namespace Table

variable {α : Type}

theorem setEntry_of_not_mem {κ : Type} [DecidableEq κ] {k : κ} {v : α} {es : List (κ × α)}
    (h : k ∉ es.map Prod.fst) : setEntry k v es = es ++ [(k, v)] := by
  induction es with
  | nil => rfl
  | cons e es ih =>
    obtain ⟨j, w⟩ := e
    rw [List.map_cons, List.mem_cons, not_or] at h
    rw [setEntry, if_neg (Ne.symm h.1), ih h.2, List.cons_append]

theorem mem_setEntry {κ : Type} [DecidableEq κ] {k : κ} {v : α} {es : List (κ × α)} {e : κ × α}
    (h : e ∈ setEntry k v es) : e = (k, v) ∨ e ∈ es := by
  induction es with
  | nil => exact .inl (List.mem_singleton.1 h)
  | cons d es ih =>
    obtain ⟨j, w⟩ := d
    rw [setEntry] at h
    split at h
    · rename_i hj
      subst hj
      exact (List.mem_cons.1 h).imp_right (List.mem_cons_of_mem _)
    · obtain rfl | h := List.mem_cons.1 h
      · exact .inr List.mem_cons_self
      · exact (ih h).imp_right (List.mem_cons_of_mem _)

theorem ext_entries {t u : Table α} (h : t.entries = u.entries) : t = u := by
  cases t
  cases u
  cases h
  rfl

/-- A table is what its entries make, set in their order. -/
theorem ofEntries_entries (t : Table α) : ofEntries t.entries = t := by
  have hfold {es : List (String × α)} {u : Table α}
      (h : ((u.entries ++ es).map Prod.fst).Nodup) :
      (es.foldl (fun t e => t.set e.1 e.2) u).entries = u.entries ++ es := by
    induction es generalizing u with
    | nil => simp
    | cons e es ih =>
      have hnew : e.1 ∉ u.entries.map Prod.fst := by
        rw [List.map_append, List.map_cons] at h
        exact fun hmem => (List.nodup_append.1 h).2.2 _ hmem _ List.mem_cons_self rfl
      have hset : (u.set e.1 e.2).entries = u.entries ++ [e] := setEntry_of_not_mem hnew
      have happend : u.entries ++ e :: es = (u.set e.1 e.2).entries ++ es := by
        rw [hset, List.append_assoc, List.singleton_append]
      rw [happend] at h
      rw [List.foldl_cons, ih h, happend]
  exact ext_entries (hfold t.nodup)

end Table

/-! ## Entries -/

/-- The stored form of an entry. -/
def entryText (e : String × String) : String := e.1 ++ String.singleton keySeparator ++ e.2

/-- An entry that survives in a map, where further separators are in use. -/
structure IsEntry (others : List Char) (e : String × String) : Prop where
  strip_key : Text.strip e.1 = e.1
  strip_value : Text.strip e.2 = e.2
  key : keySeparator ∉ e.1.toList
  key_others : ∀ c ∈ entrySeparator :: others, c ∉ e.1.toList
  value_others : ∀ c ∈ entrySeparator :: others, c ∉ e.2.toList

/-- The entries of a table survive. -/
def Table.IsStorable (others : List Char) (t : Table String) : Prop :=
  ∀ e ∈ t.entries, IsEntry others e

variable {others : List Char} {e : String × String} {t u : Table String} {key raw : String}

theorem not_mem_entryText {c : Char} (hkey : c ∉ e.1.toList) (hvalue : c ∉ e.2.toList)
    (hc : c ≠ keySeparator) : c ∉ (entryText e).toList := by
  simp [entryText, hkey, hvalue, hc]

theorem isPiece_entryText (h : IsEntry others e) : IsPiece entrySeparator (entryText e) := by
  refine ⟨fun hempty => ?_, ?_, ?_⟩
  · have hcolon : keySeparator ∈ (entryText e).toList := by simp [entryText]
    rw [hempty] at hcolon
    cases hcolon
  · have hkey : Text.stripChars Text.isBlank e.1.toList = e.1.toList := by
      rw [← Text.toList_strip, h.strip_key]
    have hvalue : Text.stripChars Text.isBlank e.2.toList = e.2.toList := by
      rw [← Text.toList_strip, h.strip_value]
    have htext : (entryText e).toList = e.1.toList ++ keySeparator :: e.2.toList := by
      simp [entryText]
    rw [Text.strip, htext, Text.stripChars_append_cons hkey (by decide) hvalue, ← htext,
      String.ofList_toList]
  · exact not_mem_entryText (h.key_others _ List.mem_cons_self)
      (h.value_others _ List.mem_cons_self) (by decide)

theorem readEntry_entryText (h : IsEntry others e) :
    readEntry key t (entryText e) = .ok (t.set e.1 e.2) := by
  have hcut : Text.cut? keySeparator (entryText e) = some (e.1, e.2) :=
    Text.cut?_eq_some_iff.2 ⟨rfl, h.key⟩
  rw [readEntry, hcut]
  simp only [h.strip_key, h.strip_value]

/-- What is read as an entry survives. -/
theorem exists_isEntry_of_readEntry {piece : String}
    (hpiece : ∀ c ∈ entrySeparator :: others, c ∉ piece.toList)
    (h : readEntry key t piece = .ok u) : ∃ e, IsEntry others e ∧ u = t.set e.1 e.2 := by
  unfold readEntry at h
  split at h
  · rename_i k v hcut
    obtain ⟨htext, hk⟩ := Text.cut?_eq_some_iff.1 hcut
    have hmem {c : Char} (hc : c ∈ (Text.strip k).toList ∨ c ∈ (Text.strip v).toList) :
        c ∈ piece.toList := by
      rw [htext]
      obtain hc | hc := hc
      · simp [Text.mem_of_mem_strip hc]
      · simp [Text.mem_of_mem_strip hc]
    refine ⟨(Text.strip k, Text.strip v), ⟨Text.strip_strip k, Text.strip_strip v,
      fun hc => hk (Text.mem_of_mem_strip hc), fun c hc hck => ?_, fun c hc hcv => ?_⟩,
      (Except.ok.inj h).symm⟩
    · exact hpiece c hc (hmem (.inl hck))
    · exact hpiece c hc (hmem (.inr hcv))
  · exact absurd h Outcome.misconfigured_ne_ok

/-! ## Maps -/

theorem Table.IsStorable.set (ht : t.IsStorable others) (he : IsEntry others e) :
    (t.set e.1 e.2).IsStorable others := by
  intro d hd
  obtain rfl | hd := Table.mem_setEntry hd
  · exact he
  · exact ht d hd

theorem storedMap_ofTable (t : Table String) :
    Value.storedMap (t.map .text).entries =
      Text.join (String.singleton entrySeparator) (t.entries.map entryText) := by
  simp only [Value.storedMap, Table.map, List.map_map]
  rfl

/-- A map whose entries survive is read back. -/
theorem readMap_storedMap (h : t.IsStorable others) :
    readMap key (Value.storedMap (t.map .text).entries) = .ok t := by
  have hpieces : (t.entries.map entryText).flatMap (trimmedPieces entrySeparator) =
      t.entries.map entryText := by
    rw [flatMap_trimmedPieces_eq_self_iff]
    intro s hs
    obtain ⟨e, he, rfl⟩ := List.mem_map.1 hs
    exact isPiece_entryText (h e he)
  have hfold {es : List (String × String)} (hes : ∀ e ∈ es, IsEntry others e) (u : Table String) :
      (es.map entryText).foldlM (readEntry key) u =
        .ok (es.foldl (fun t e => t.set e.1 e.2) u) := by
    induction es generalizing u with
    | nil => rfl
    | cons e es ih =>
      rw [List.map_cons, List.foldlM_cons, readEntry_entryText (hes e List.mem_cons_self)]
      exact ih (fun d hd => hes d (List.mem_cons_of_mem _ hd)) _
  rw [readMap, storedMap_ofTable, trimmedPieces_join, hpieces, hfold h]
  exact congrArg Except.ok (Table.ofEntries_entries t)

/-- The entries of a map that is read survive. -/
theorem isStorable_of_readMap (hraw : ∀ c ∈ others, c ∉ raw.toList)
    (h : readMap key raw = .ok t) : t.IsStorable others := by
  have hfold {pieces : List String} {u : Table String} (hu : u.IsStorable others)
      (hpieces : ∀ piece ∈ pieces, ∀ c ∈ entrySeparator :: others, c ∉ piece.toList)
      (h : pieces.foldlM (readEntry key) u = .ok t) : t.IsStorable others := by
    induction pieces generalizing u with
    | nil =>
      obtain rfl := Outcome.pure_ok h
      exact hu
    | cons piece pieces ih =>
      rw [List.foldlM_cons] at h
      obtain ⟨v, hv, h⟩ := Outcome.bind_ok h
      obtain ⟨e, he, rfl⟩ := exists_isEntry_of_readEntry (hpieces piece List.mem_cons_self) hv
      exact ih (hu.set he) (fun p hp => hpieces p (List.mem_cons_of_mem _ hp)) h
  refine hfold (fun e he => by cases he) (fun piece hpiece c hc hmem => ?_) h
  obtain rfl | hc := List.mem_cons.1 hc
  · exact (isPiece_of_mem_trimmedPieces hpiece).2.2 hmem
  · exact hraw c hc (mem_of_mem_trimmedPieces hpiece hmem)

/-! ## Lists of maps -/

/-- A map that survives in a list of maps. -/
structure Table.IsStorableItem (t : Table String) : Prop where
  entries_ne_nil : t.entries ≠ []
  isStorable : t.IsStorable [itemSeparator]

theorem not_mem_storedMap (h : t.IsStorable [itemSeparator]) :
    itemSeparator ∉ (Value.storedMap (t.map .text).entries).toList := by
  intro hmem
  rw [storedMap_ofTable] at hmem
  obtain hmem | ⟨s, hs, hmem⟩ := Text.mem_of_mem_join hmem
  · revert hmem
    decide
  · obtain ⟨e, he, rfl⟩ := List.mem_map.1 hs
    have hitem : itemSeparator ∈ entrySeparator :: [itemSeparator] := by decide
    exact not_mem_entryText ((h e he).key_others _ hitem) ((h e he).value_others _ hitem)
      (by decide) hmem

/-- Only the empty map is stored as blanks. -/
theorem strip_storedMap_ne_iff :
    Text.strip (Value.storedMap (t.map .text).entries) ≠ "" ↔ t.entries ≠ [] := by
  rw [not_iff_not, storedMap_ofTable]
  constructor
  · intro h
    have hnil : Text.stripChars Text.isBlank
        (Text.join (String.singleton entrySeparator) (t.entries.map entryText)).toList = [] := by
      rw [← Text.toList_strip, h, String.toList_empty]
    cases hentries : t.entries with
    | nil => rfl
    | cons e es =>
      have hmem : keySeparator ∈ (Text.join (String.singleton entrySeparator)
          (t.entries.map entryText)).toList := by
        rw [Text.join, String.toList_ofList, hentries]
        exact Text.mem_intercalate (List.mem_map_of_mem (List.mem_map_of_mem List.mem_cons_self))
          (by simp [entryText])
      exact absurd (Text.forall_of_stripChars_eq_nil hnil _ hmem) (by decide)
  · intro h
    rw [h]
    decide

/-- Texts without the separator are read one by one, the blank ones apart. -/
theorem readMaps_join {ss : List String} (h : ∀ s ∈ ss, itemSeparator ∉ s.toList) :
    readMaps key (Text.join (String.singleton itemSeparator) ss) =
      (ss.filter (fun s => Text.strip s ≠ "")).mapM (readMap key) := by
  cases ss with
  | nil => rfl
  | cons s ss =>
    have hsplit : (s :: ss).flatMap (Text.split itemSeparator) = s :: ss :=
      (List.flatMap_congr fun s hs => Text.split_of_not_mem (h s hs)).trans
        (List.flatMap_pure_eq_map id _ |>.trans (List.map_id _))
    rw [readMaps, Text.split_join (List.cons_ne_nil s ss), hsplit]

theorem isStorable_of_readMaps {ts : List (Table String)} (h : readMaps key raw = .ok ts) :
    ∀ t ∈ ts, t.IsStorable [itemSeparator] := by
  intro t ht
  obtain ⟨piece, hpiece, hread⟩ := (Outcome.mapM_ok h).2 t ht
  refine isStorable_of_readMap (fun c hc => ?_) hread
  rw [List.mem_singleton.1 hc]
  exact Text.not_mem_of_mem_split (List.mem_filter.1 hpiece).1

/-- The stored forms of maps. -/
def storedMaps (ts : List (Table String)) : List String :=
  ts.map fun t => Value.storedMap (t.map .text).entries

theorem not_mem_of_mem_storedMaps {ts : List (Table String)}
    (h : ∀ t ∈ ts, t.IsStorable [itemSeparator]) :
    ∀ s ∈ storedMaps ts, itemSeparator ∉ s.toList := by
  intro s hs
  obtain ⟨t, ht, rfl⟩ := List.mem_map.1 hs
  exact not_mem_storedMap (h t ht)

/-- A list of maps is read back exactly if all of them survive. -/
theorem readMaps_stored_iff {ts : List (Table String)} :
    readMaps key (Text.join (String.singleton itemSeparator) (storedMaps ts)) = .ok ts ↔
      ∀ t ∈ ts, t.IsStorableItem := by
  constructor
  · intro h
    have hts := isStorable_of_readMaps h
    -- As many maps are read as were stored, so no text was blank.
    rw [readMaps_join (not_mem_of_mem_storedMaps hts)] at h
    have hlength : (storedMaps ts).length = ts.length := List.length_map _
    have hall := List.length_filter_eq_length_iff.1 ((Outcome.mapM_ok h).1.symm.trans hlength.symm)
    intro t ht
    have hstrip := hall _ (List.mem_map_of_mem ht)
    exact ⟨strip_storedMap_ne_iff.1 (by simpa using hstrip), hts t ht⟩
  · intro h
    rw [readMaps_join (not_mem_of_mem_storedMaps fun t ht => (h t ht).isStorable),
      List.filter_eq_self.2]
    · exact Outcome.mapM_map_ok fun t ht => readMap_storedMap (h t ht).isStorable
    · intro s hs
      obtain ⟨t, ht, rfl⟩ := List.mem_map.1 hs
      simpa using strip_storedMap_ne_iff.2 (h t ht).entries_ne_nil

/-! ## Settings -/

theorem stored_ofTable (t : Table String) :
    (Value.ofTable t).stored = Value.storedMap (t.map .text).entries := rfl

theorem stored_maps (ts : List (Table String)) :
    (Value.list (ts.map .ofTable)).stored =
      Text.join (String.singleton itemSeparator) (storedMaps ts) := by
  simp only [Value.stored, List.map_map]
  rfl

namespace Configuration

variable {k : Kind}

/-- What was put is read from its stored form. -/
theorem get_put (conf : Configuration) (p : Preset k) (v : k.Carrier) :
    (conf.put p.toSetting v).get p = k.read p.key (k.toValue v).stored := by
  have htext : (conf.put p.toSetting v).text? p.key = some (k.toValue v).stored := by
    rw [put, text?_set, if_pos rfl]
  rw [get, find?_of_text htext]
  cases k.read p.key (k.toValue v).stored <;> rfl

theorem exists_read_of_find? {conf : Configuration} {s : Setting k} {v : k.Carrier}
    (h : conf.find? s = .ok (some v)) : ∃ raw, k.read s.key raw = .ok v := by
  unfold find? at h
  split at h
  · rename_i raw _
    obtain ⟨v', hread, hv⟩ := Outcome.map_ok h
    exact ⟨raw, Option.some.inj hv ▸ hread⟩
  · cases h

/-- **Which values are read back.** Of every list, map or list of maps, put into any configuration:
it is read back exactly if its items or entries survive, in their order. What a list or a map
setting was read as, under any of its keys and in any configuration, is read back in any case. -/
theorem get_put_iff (conf : Configuration) :
    (∀ (p : Preset .list) items,
      (conf.put p.toSetting items).get p = .ok items ↔ ∀ s ∈ items, IsPiece itemSeparator s) ∧
    (∀ (p : Preset .map) t, (conf.put p.toSetting t).get p = .ok t ↔ t.IsStorable []) ∧
    (∀ (p : Preset .maps) ts,
      (conf.put p.toSetting ts).get p = .ok ts ↔ ∀ t ∈ ts, t.IsStorableItem) ∧
    (∀ (p : Preset .list) source items, find? source p.toSetting = .ok (some items) →
      (conf.put p.toSetting items).get p = .ok items) ∧
    ∀ (p : Preset .map) source t, find? source p.toSetting = .ok (some t) →
      (conf.put p.toSetting t).get p = .ok t := by
  have hlist (p : Preset .list) (items : List String) :
      (conf.put p.toSetting items).get p = .ok items ↔ ∀ s ∈ items, IsPiece itemSeparator s := by
    rw [get_put, Kind.toValue, stored_ofTexts, Kind.read, trimmedPieces_join, Except.ok.injEq]
    exact flatMap_trimmedPieces_eq_self_iff
  have hmap (p : Preset .map) (t : Table String) :
      (conf.put p.toSetting t).get p = .ok t ↔ t.IsStorable [] := by
    rw [get_put, Kind.toValue, stored_ofTable, Kind.read]
    exact ⟨isStorable_of_readMap (by simp), readMap_storedMap⟩
  refine ⟨hlist, hmap, fun p ts => ?_, fun p source items h => ?_, fun p source t h => ?_⟩
  · rw [get_put, Kind.toValue, stored_maps, Kind.read]
    exact readMaps_stored_iff
  · obtain ⟨raw, hread⟩ := exists_read_of_find? h
    obtain rfl := Except.ok.inj hread
    exact (hlist p _).2 fun s hs => isPiece_of_mem_trimmedPieces hs
  · obtain ⟨raw, hread⟩ := exists_read_of_find? h
    exact (hmap p t).2 (isStorable_of_readMap (by simp) hread)

end Configuration

end FlinkCluster
