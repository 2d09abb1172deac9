import FlinkCluster.Proofs.Agreement
import FlinkCluster.Proofs.EffectiveValues
import FlinkCluster.Proofs.ProgramArguments
import Mathlib.Data.List.Infix

/-!
# What the rendered configuration says

The configuration is shipped to the pods as a file of lines `key: value`. Keys and values are copied
into it as they are.

* `Step.podConfiguration_eq`: what the pods should read at every key, `Configuration.podText?`.
* `Configuration.readOptions?_lines_iff`: reading the file line by line gives the options back
  exactly if each of them `IsLine`: no line end in it, and no `: ` in its key.
* `Step.rendered_options`: both together, for every configuration that has a cluster id.
-/

set_option autoImplicit false

namespace FlinkCluster

/-! ## Cutting at two characters -/

namespace Text

/-- The text before and after the first place where `a` stands in front of `b`. -/
def cutPair? (a b : Char) : List Char → Option (List Char × List Char)
  | [] => none
  | c :: r =>
    if c = a ∧ r.head? = some b then some ([], r.tail)
    else (cutPair? a b r).map fun p => (c :: p.1, p.2)

theorem intercalate_nil_sep (ls : List (List Char)) : List.intercalate [] ls = ls.flatten := by
  induction ls with
  | nil => rfl
  | cons l ls ih =>
    cases ls with
    | nil => simp
    | cons m ls => rw [List.intercalate_cons_cons, ih, List.append_nil, List.flatten_cons (l := l)]

/-- Texts with a separator behind each are cut into the pieces of each, and an empty one at the
end. -/
theorem split_terminated (sep : Char) (ss : List String) :
    split sep (join "" (ss.map (· ++ String.singleton sep))) = ss.flatMap (split sep) ++ [""] := by
  have hsplit : ((ss.map fun s => s.toList ++ [sep]).flatten).splitOn sep =
      ss.flatMap (fun s => s.toList.splitOn sep) ++ [[]] := by
    induction ss with
    | nil => simp
    | cons s ss ih =>
      rw [List.map_cons, List.flatten_cons, List.append_assoc, List.singleton_append,
        List.splitOn_append_cons_self, ih, List.flatMap_cons, List.append_assoc]
  rw [split, join, String.toList_ofList, String.toList_empty, intercalate_nil_sep, List.map_map]
  simp only [Function.comp_def, String.toList_append, String.toList_singleton]
  rw [hsplit, List.map_append, List.map_flatMap]
  rfl

theorem mem_of_mem_baseName {c : Char} {path : String} (h : c ∈ (baseName path).toList) :
    c ∈ path.toList := by
  rw [baseName, List.getLastD_eq_getLast?] at h
  cases hlast : (split '/' path).getLast? with
  | none => rw [hlast] at h; cases h
  | some piece =>
    rw [hlast] at h
    exact mem_of_mem_split (List.mem_of_getLast? hlast) h

variable {a b : Char} {left right : List Char}

/-- A text is cut at a pair of characters that stands in it, if this is the first one. -/
theorem cutPair?_append_iff (hne : a ≠ b) :
    cutPair? a b (left ++ a :: b :: right) = some (left, right) ↔ ¬ [a, b] <:+: left := by
  induction left with
  | nil => simp [cutPair?]
  | cons c left ih =>
    rw [List.cons_append, cutPair?, List.infix_cons_iff]
    cases left with
    | nil =>
      have hfirst : ¬ (c = a ∧ a = b) := fun h => hne h.2
      simp [cutPair?, hfirst]
    | cons d left =>
      by_cases hfirst : c = a ∧ d = b
      · simp [hfirst]
      · have hprefix : ¬ [a, b] <+: c :: d :: left := by
          simp only [List.cons_prefix_cons, List.nil_prefix, and_true]
          exact fun h => hfirst ⟨h.1.symm, h.2.symm⟩
        rw [if_neg (by simpa using hfirst), Option.map_eq_some_iff]
        rw [or_iff_right hprefix, ← ih]
        constructor
        · rintro ⟨⟨x, y⟩, hcut, heq⟩
          simp only [Prod.mk.injEq, List.cons.injEq, true_and] at heq
          obtain ⟨rfl, rfl⟩ := heq
          exact hcut
        · intro hcut
          exact ⟨_, hcut, rfl⟩

end Text

/-- The entries by key hold no key twice. -/
theorem Table.pairwise_lt_sorted {α : Type} (t : Table α) :
    t.sorted.Pairwise fun a b => a.1 < b.1 := by
  have hne : t.sorted.Pairwise fun a b => a.1 ≠ b.1 := List.pairwise_map.1 t.nodup_keys_sorted
  refine (t.pairwise_sorted.and hne).imp fun ⟨hle, hne⟩ => ?_
  exact String.not_le.1 fun hge => hne (String.le_antisymm hle hge)

/-! ## Reading lines -/

namespace Configuration

/-- An option on a line: the key in front of the first `: `, and the value behind it. -/
def readLine? (line : String) : Option (String × String) :=
  (Text.cutPair? ':' ' ' line.toList).map fun (k, v) => (String.ofList k, String.ofList v)

/-- The options of a text. Each line has a line end behind it. -/
def readOptions? (text : String) : Option (List (String × String)) :=
  (Text.split '\n' text).dropLast.mapM readLine?

/-- The line of an option. -/
def line (e : String × String) : String := e.1 ++ ": " ++ e.2

/-- An option that is on a line of its own, with its key in front of the first `: `. -/
structure IsLine (e : String × String) : Prop where
  key : '\n' ∉ e.1.toList
  value : '\n' ∉ e.2.toList
  separator : ¬ [':', ' '] <:+: e.1.toList

instance (e : String × String) : Decidable (IsLine e) :=
  decidable_of_iff ('\n' ∉ e.1.toList ∧ '\n' ∉ e.2.toList ∧ ¬ [':', ' '] <:+: e.1.toList)
    ⟨fun ⟨hkey, hvalue, hseparator⟩ => ⟨hkey, hvalue, hseparator⟩,
      fun h => ⟨h.key, h.value, h.separator⟩⟩

variable {e : String × String} {pairs : List (String × String)}

theorem toList_line (e : String × String) :
    (line e).toList = e.1.toList ++ ':' :: ' ' :: e.2.toList := by
  simp [line]

theorem readLine?_line_iff :
    readLine? (line e) = some e ↔ ¬ [':', ' '] <:+: e.1.toList := by
  have hcut := @Text.cutPair?_append_iff ':' ' ' e.1.toList e.2.toList (by decide)
  rw [readLine?, toList_line, ← hcut, Option.map_eq_some_iff]
  constructor
  · rintro ⟨⟨k, v⟩, hkv, rfl⟩
    simpa using hkv
  · intro hkv
    exact ⟨_, hkv, by simp⟩

theorem newline_not_mem_line_iff :
    '\n' ∉ (line e).toList ↔ '\n' ∉ e.1.toList ∧ '\n' ∉ e.2.toList := by
  simp [toList_line]

theorem mapM_eq_some_iff {α β : Type} {f : α → Option β} {xs : List α} {ys : List β} :
    xs.mapM f = some ys ↔ xs.map f = ys.map some := by
  induction xs generalizing ys with
  | nil => cases ys <;> simp
  | cons x xs ih =>
    rw [List.mapM_cons, List.map_cons]
    cases hx : f x with
    | none => cases ys <;> simp
    | some y => cases ys <;> simp [Option.bind_eq_some_iff, ih, and_comm]

theorem eq_of_split_eq_singleton {sep : Char} {s piece : String} (h : Text.split sep s = [piece]) :
    s = piece ∧ sep ∉ s.toList := by
  obtain ⟨cs, hcs, rfl⟩ := List.map_eq_singleton_iff.1 h
  have hjoin : List.intercalate [sep] (s.toList.splitOn sep) = s.toList :=
    List.intercalate_splitOn sep
  rw [hcs, List.intercalate_singleton] at hjoin
  have hs : s = String.ofList cs := by rw [hjoin, String.ofList_toList]
  refine ⟨hs, ?_⟩
  have hmem : String.ofList cs ∈ Text.split sep s := h ▸ List.mem_singleton_self _
  exact hs ▸ Text.not_mem_of_mem_split hmem

theorem length_le_flatMap {α β : Type} {f : α → List β} (hf : ∀ a, f a ≠ []) (xs : List α) :
    xs.length ≤ (xs.flatMap f).length := by
  induction xs with
  | nil => exact Nat.zero_le _
  | cons x xs ih =>
    have hx := List.length_pos_iff.2 (hf x)
    rw [List.flatMap_cons, List.length_append, List.length_cons]
    omega

theorem isLine_of_read
    (h : (pairs.flatMap fun e => Text.split '\n' (line e)).map readLine? = pairs.map some) :
    ∀ e ∈ pairs, IsLine e := by
  have hpieces (e : String × String) : Text.split '\n' (line e) ≠ [] := by
    simp [Text.split, List.splitOn_ne_nil]
  induction pairs with
  | nil =>
    intro e he
    cases he
  | cons e pairs ih =>
    obtain ⟨piece, others, hsplit⟩ := List.exists_cons_of_ne_nil (hpieces e)
    rw [List.flatMap_cons, hsplit, List.cons_append, List.map_cons, List.map_cons,
      List.cons.injEq] at h
    obtain ⟨hfirst, hrest⟩ := h
    -- A line end in the first option would leave more lines than there are options.
    have hothers : others = [] := by
      have hlength := congrArg List.length hrest
      have hle := length_le_flatMap hpieces pairs
      rw [List.length_map, List.length_map, List.length_append] at hlength
      exact List.length_eq_zero_iff.1 (by omega)
    subst hothers
    obtain ⟨rfl, hnewline⟩ := eq_of_split_eq_singleton hsplit
    obtain ⟨hkey, hvalue⟩ := newline_not_mem_line_iff.1 hnewline
    have he : IsLine e := ⟨hkey, hvalue, readLine?_line_iff.1 hfirst⟩
    exact List.forall_mem_cons.2 ⟨he, ih hrest⟩

/-- The options are read back from their lines exactly if each is on a line of its own. -/
theorem readOptions?_lines_iff :
    readOptions? (Text.join "" (pairs.map fun e => line e ++ "\n")) = some pairs ↔
      ∀ e ∈ pairs, IsLine e := by
  have hlines : Text.split '\n' (Text.join "" (pairs.map fun e => line e ++ "\n")) =
      pairs.flatMap (fun e => Text.split '\n' (line e)) ++ [""] := by
    have hsplit := Text.split_terminated '\n' (pairs.map line)
    rw [List.map_map, List.flatMap_map] at hsplit
    exact hsplit
  rw [readOptions?, hlines, List.dropLast_concat, mapM_eq_some_iff]
  constructor
  · exact isLine_of_read
  · intro h
    have hsplit : pairs.flatMap (fun e => Text.split '\n' (line e)) = pairs.map line := by
      rw [List.map_eq_flatMap]
      exact List.flatMap_congr fun e he =>
        Text.split_of_not_mem (newline_not_mem_line_iff.2 ⟨(h e he).key, (h e he).value⟩)
    rw [hsplit, List.map_map]
    exact List.map_congr_left fun e he => readLine?_line_iff.2 (h e he).separator

end Configuration

/-! ## What the pods read -/

namespace Configuration

variable {conf : Configuration} {id key : String}

/-- Whether high availability is configured. -/
def isHighlyAvailable (conf : Configuration) : Bool :=
  Text.upper ((conf.text? Options.highAvailability.key).getD Options.highAvailability.default) ≠
    "NONE"

/-- The keytab that is shipped: the one that is named, if a principal is named with it. -/
def shippedKeytab? (conf : Configuration) : Option String :=
  if (DeploymentSpec.nonEmpty (conf.text? Options.kerberosPrincipal.key)).isSome then
    DeploymentSpec.nonEmpty (conf.text? Options.kerberosKeytab.key)
  else none

/-- What the pods of a cluster should read at a key: nothing of where the configuration is mounted,
the job manager's address without high availability, and the shipped keytab's path in the pod. -/
def podText? (conf : Configuration) (id key : String) : Option String :=
  if key = Options.flinkConfDir.key then none
  else if key = Options.jobManagerRpcAddress.key ∧ conf.isHighlyAvailable = false then
    some (id ++ "." ++ (conf.text? Options.namespaceName.key).getD Options.namespaceName.default)
  else if key = Options.kerberosKeytab.key ∧ conf.shippedKeytab?.isSome then
    conf.shippedKeytab?.map fun path => Step.keytabDirInPod ++ "/" ++ Text.baseName path
  else conf.text? key

/-- Every option that the pods should read is on a line of its own. -/
def IsLegible (conf : Configuration) (id : String) : Prop :=
  ∀ key s, conf.podText? id key = some s → IsLine (key, s)

theorem find?_plain {s : Setting .text} (hfallback : s.fallback = []) :
    conf.find? s = .ok (conf.text? s.key) := by
  cases h : conf.text? s.key with
  | none => exact find?_of_absent hfallback h
  | some text => rw [find?_of_text h]; rfl

theorem get_plain {s : Preset .text} (hfallback : s.fallback = []) :
    conf.get s = .ok ((conf.text? s.key).getD s.default) := by
  rw [get, find?_plain hfallback]
  rfl

end Configuration

namespace Parameters

theorem highAvailability_eq (p : Parameters) :
    p.highAvailability = .ok p.conf.isHighlyAvailable := by
  rw [highAvailability, Configuration.get_plain rfl]
  rfl

theorem jobManagerAddress_eq (p : Parameters) :
    p.jobManagerAddress = .ok (p.clusterId ++ "." ++
      (p.conf.text? Options.namespaceName.key).getD Options.namespaceName.default) := by
  rw [jobManagerAddress, namespaceName, Configuration.get_plain rfl]
  rfl

end Parameters

namespace Step

theorem keytab?_eq (p : Parameters) : keytab? p = .ok p.conf.shippedKeytab? := by
  simp only [keytab?, Parameters.kerberosKeytab, Parameters.kerberosPrincipal]
  rw [Configuration.find?_plain rfl, Configuration.find?_plain rfl]
  rfl

/-- The configuration of the pods can always be made, and holds what they should read. -/
theorem podConfiguration_eq (p : Parameters) :
    ∃ written, podConfiguration p = .ok written ∧
      ∀ key, written.text? key = p.conf.podText? p.clusterId key := by
  have haddress : Options.jobManagerRpcAddress.key ≠ Options.flinkConfDir.key := by decide
  have hkeytab : Options.kerberosKeytab.key ≠ Options.flinkConfDir.key := by decide
  have hother : Options.kerberosKeytab.key ≠ Options.jobManagerRpcAddress.key := by decide
  rw [podConfiguration, p.highAvailability_eq, p.jobManagerAddress_eq, keytab?_eq]
  simp only [Configuration.podText?]
  cases p.conf.isHighlyAvailable <;> cases p.conf.shippedKeytab? <;>
    refine ⟨_, rfl, fun key => ?_⟩ <;>
    simp only [Configuration.text?_setText, Configuration.text?_erase] <;> grind

theorem podConfiguration_of_parameters {role : Role} {conf : Configuration} {p : Parameters}
    (hp : Parameters.of role conf = .ok p) :
    ∃ written, podConfiguration p = .ok written ∧
      ∀ key, written.text? key = conf.podText? p.clusterId key := by
  have hconf : p.conf = conf := congrArg Parameters.conf (Parameters.of_ok hp).1
  exact hconf ▸ podConfiguration_eq p

/-- The lines of the options are read back if all of them are legible, and only then. -/
theorem readOptions?_rendered_iff {conf written : Configuration} {id : String}
    (h : ∀ key, written.text? key = conf.podText? id key) :
    Configuration.readOptions? (renderConfiguration written) = some written.table.sorted ↔
      conf.IsLegible id := by
  have hrender : renderConfiguration written =
      Text.join "" (written.table.sorted.map fun e => Configuration.line e ++ "\n") := rfl
  rw [hrender, Configuration.readOptions?_lines_iff, Prod.forall]
  refine forall_congr' fun key => forall_congr' fun s => ?_
  rw [Table.mem_sorted_iff, ← h key, Configuration.text?]

theorem newline_not_mem_podAddress {role : Role} {conf : Configuration} {p : Parameters}
    (hp : Parameters.of role conf = .ok p)
    (h : ∀ key s, conf.text? key = some s → Configuration.IsLine (key, s)) :
    '\n' ∉ (p.clusterId ++ "." ++ (conf.text? Options.namespaceName.key).getD
      Options.namespaceName.default).toList := by
  have hid := (Parameters.of_ok hp).2.1
  rw [Configuration.find?_plain rfl] at hid
  have hns : '\n' ∉ ((conf.text? Options.namespaceName.key).getD
      Options.namespaceName.default).toList := by
    cases htext : conf.text? Options.namespaceName.key with
    | none => decide
    | some ns => exact (h _ ns htext).value
  have hclusterId := (h _ _ (Except.ok.inj hid)).value
  simp only [String.toList_append, List.mem_append, not_or]
  exact ⟨⟨hclusterId, by decide⟩, hns⟩

theorem newline_not_mem_podKeytab {conf : Configuration} {path : String}
    (h : ∀ key s, conf.text? key = some s → Configuration.IsLine (key, s))
    (hpath : conf.shippedKeytab? = some path) :
    '\n' ∉ (keytabDirInPod ++ "/" ++ Text.baseName path).toList := by
  have htext : conf.text? Options.kerberosKeytab.key = some path := by
    rw [Configuration.shippedKeytab?] at hpath
    split at hpath
    · exact (DeploymentSpec.nonEmpty_eq_some_iff.1 hpath).1
    · cases hpath
  have hvalue := (h _ path htext).value
  simp only [String.toList_append, List.mem_append, not_or]
  exact ⟨⟨by decide, by decide⟩, fun hbase => hvalue (Text.mem_of_mem_baseName hbase)⟩

/-- What the pods should read is legible if the configuration is. -/
theorem isLegible_of_isLine {role : Role} {conf : Configuration} {p : Parameters}
    (hp : Parameters.of role conf = .ok p)
    (h : ∀ key s, conf.text? key = some s → Configuration.IsLine (key, s)) :
    conf.IsLegible p.clusterId := by
  intro key s hs
  rw [Configuration.podText?] at hs
  split_ifs at hs with hdir haddress hkeytab
  · obtain ⟨rfl, -⟩ := haddress
    obtain rfl := Option.some.inj hs
    exact ⟨show '\n' ∉ Options.jobManagerRpcAddress.key.toList by decide,
      newline_not_mem_podAddress hp h,
      show ¬ [':', ' '] <:+: Options.jobManagerRpcAddress.key.toList by decide +kernel⟩
  · obtain ⟨rfl, -⟩ := hkeytab
    obtain ⟨path, hpath, rfl⟩ := Option.map_eq_some_iff.1 hs
    exact ⟨show '\n' ∉ Options.kerberosKeytab.key.toList by decide,
      newline_not_mem_podKeytab h hpath,
      show ¬ [':', ' '] <:+: Options.kerberosKeytab.key.toList by decide +kernel⟩
  · exact h key s hs

theorem flinkFiles_ok {p : Parameters} {host : Host} {files : Table String} (h : flinkFiles p host = .ok files) :
    ∃ (logging : Table String) (written : Configuration), podConfiguration p = .ok written ∧
      files = logging.set flinkFileName (renderConfiguration written) := by
  unfold flinkFiles at h
  cases hdir : host.loggingDir? with
  | none =>
    rw [hdir] at h
    obtain ⟨logging, -, h⟩ := Outcome.bind_ok h
    obtain ⟨written, hwritten, h⟩ := Outcome.bind_ok h
    exact ⟨logging, written, hwritten, (Outcome.pure_ok h).symm⟩
  | some dir =>
    rw [hdir] at h
    obtain ⟨logging, -, h⟩ := Outcome.bind_ok h
    obtain ⟨written, hwritten, h⟩ := Outcome.bind_ok h
    exact ⟨logging, written, hwritten, (Outcome.pure_ok h).symm⟩

/-- **What the rendered configuration says.** It can always be rendered, from the options that the
pods should read, in the order of their keys. Reading it line by line gives these options exactly if
all of them are legible, and then no other legible configuration has the same text. -/
theorem rendered_options {role : Role} {conf : Configuration} {p : Parameters}
    (hp : Parameters.of role conf = .ok p) :
    ∃ (text : String) (pairs : List (String × String)),
      (podConfiguration p).map renderConfiguration = .ok text ∧
      (∀ host files, flinkFiles p host = .ok files → files.get? flinkFileName = some text) ∧
      pairs.Pairwise (fun a b => a.1 < b.1) ∧
      (∀ key s, (key, s) ∈ pairs ↔ conf.podText? p.clusterId key = some s) ∧
      (Configuration.readOptions? text = some pairs ↔ conf.IsLegible p.clusterId) ∧
      ∀ role' conf' p', Parameters.of role' conf' = .ok p' →
        (podConfiguration p').map renderConfiguration = .ok text →
        conf.IsLegible p.clusterId → conf'.IsLegible p'.clusterId →
        ∀ key, conf.podText? p.clusterId key = conf'.podText? p'.clusterId key := by
  obtain ⟨written, hpod, htext⟩ := podConfiguration_of_parameters hp
  refine ⟨renderConfiguration written, written.table.sorted, ?_, ?_, ?_, ?_,
    readOptions?_rendered_iff htext, ?_⟩
  · rw [hpod]
    rfl
  · intro host files hfiles
    obtain ⟨logging, written', hpod', rfl⟩ := flinkFiles_ok hfiles
    obtain rfl := Except.ok.inj (hpod.symm.trans hpod')
    rw [Table.get?_set, if_pos rfl]
  · exact written.table.pairwise_lt_sorted
  · intro key s
    rw [Table.mem_sorted_iff, ← htext key, Configuration.text?]
  · intro role' conf' p' hp' hsame hlegible hlegible' key
    obtain ⟨written', hpod', htext'⟩ := podConfiguration_of_parameters hp'
    rw [hpod'] at hsame
    have hread := (readOptions?_rendered_iff htext').2 hlegible'
    rw [Except.ok.inj hsame, (readOptions?_rendered_iff htext).2 hlegible] at hread
    have hsorted := Option.some.inj hread
    rw [← htext key, ← htext' key]
    ext s
    rw [Configuration.text?, Configuration.text?, ← Table.mem_sorted_iff, ← Table.mem_sorted_iff,
      hsorted]

/-- A configuration of the cluster `c1`, with further texts. -/
def configurationWith (texts : List (String × String)) : Configuration :=
  .ofEntries <|
    (texts ++ [(Options.jobManagerRpcAddress.key, "c1"), (Options.clusterId.key, "c1")]).map
      fun e => (e.1, .text e.2)

/-- Three options, one of them with the text that separates keys from values. -/
theorem rendered_options_legible : ∃ p text pairs,
    Parameters.of .jobManager (configurationWith [("a", "b: c")]) = .ok p ∧
    (podConfiguration p).map renderConfiguration = .ok text ∧
    Configuration.readOptions? text = some pairs ∧
    ∀ key s, (key, s) ∈ pairs ↔
      (configurationWith [("a", "b: c")]).podText? "c1" key = some s := by
  obtain ⟨p, hp, hid⟩ : ∃ p, Parameters.of .jobManager (configurationWith [("a", "b: c")]) =
      .ok p ∧ p.clusterId = "c1" := ⟨_, rfl, rfl⟩
  obtain ⟨text, pairs, htext, -, -, hmem, hread, -⟩ := rendered_options hp
  rw [hid] at hmem hread
  have hlines : ∀ e ∈ (configurationWith [("a", "b: c")]).table.entries,
      Configuration.IsLine e := by decide +kernel
  have hlegible := isLegible_of_isLine hp fun key s hs => hlines _ (Table.mem_entries_iff.2 hs)
  rw [hid] at hlegible
  exact ⟨p, text, pairs, hp, htext, hread.2 hlegible, hmem⟩

/-- Options that are set in the order of their keys are rendered in this order. -/
theorem renderConfiguration_of_ordered {written : Configuration}
    (h : written.table.entries.Pairwise fun a b => a.1 ≤ b.1) :
    renderConfiguration written =
      Text.join "" (written.table.entries.map fun e => Configuration.line e ++ "\n") := by
  rw [← Table.sorted_of_ordered h]
  rfl

/-- A value with a line end renders as two options. -/
theorem rendered_alike : ∃ p q text,
    Parameters.of .jobManager (configurationWith [("a", "b\nc: d")]) = .ok p ∧
    Parameters.of .jobManager (configurationWith [("a", "b"), ("c", "d")]) = .ok q ∧
    (podConfiguration p).map renderConfiguration = .ok text ∧
    (podConfiguration q).map renderConfiguration = .ok text ∧
    (configurationWith [("a", "b\nc: d")]).podText? "c1" "c" = none ∧
    (configurationWith [("a", "b"), ("c", "d")]).podText? "c1" "c" = some "d" := by
  refine ⟨_, _, "a: b\nc: d\njobmanager.rpc.address: c1.default\nkubernetes.cluster-id: c1\n",
    rfl, rfl, ?_, ?_, ?_, ?_⟩
  · refine congrArg Except.ok ((renderConfiguration_of_ordered ?_).trans ?_) <;> decide +kernel
  · refine congrArg Except.ok ((renderConfiguration_of_ordered ?_).trans ?_) <;> decide +kernel
  · decide +kernel
  · decide +kernel

end Step

end FlinkCluster
