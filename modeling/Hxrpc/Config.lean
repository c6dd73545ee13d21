import Hxrpc.Lib.MonotoneStack
import Hxrpc.StringUtils
import Mathlib.Data.List.AList

/-!
# The configuration parser

`ParseYamlLine` reads one line into a map of flat paths and keeps the open sections on a stack.  A
line that says something has an indentation, a key and a value; a section is the parent of the lines
below it for as long as they are indented deeper.
-/

namespace Hxrpc

namespace Config

/-- What starts a comment. -/
def hash : UInt8 := 35
/-- What separates a key from its value. -/
def colon : UInt8 := 58
/-- What joins the keys of a path. -/
def dot : UInt8 := 46
/-- `yaml_sections` and `config_map_`. -/
structure YamlState where
  /-- Indentation and name of each open section, the innermost last. -/
  sections : List (Nat × Bytes) := []
  /-- Values by path. -/
  configMap : AList fun _ : Bytes => Bytes := ∅

/-- The path of a key below some sections. -/
def joinPath (sections : List (Nat × Bytes)) (key : Bytes) : Bytes :=
  let path := sections.foldl
    (fun path section_ => (if path = [] then path else path ++ [dot]) ++ section_.2) []
  (if path = [] then path else path ++ [dot]) ++ key

/-- `ParseYamlLine`. -/
def parseYamlLine (line : Bytes) (state : YamlState) : YamlState :=
  let line :=
    match line.idxOf? hash with
    | none => line
    | some comment => line.take comment
  if trimCopy line = [] then state
  else
    let indent := countIndent line
    let trimmed := trimCopy line
    match trimmed.idxOf? colon with
    | none => state
    | some delimiter =>
        let key := stripQuotes (trimCopy (trimmed.take delimiter))
        let value := stripQuotes (trimCopy (trimmed.drop (delimiter + 1)))
        let sections := state.sections.rdropWhile fun section_ => indent ≤ section_.1
        if value = [] then { state with sections := sections ++ [(indent, key)] }
        else
          { sections := sections
            configMap := state.configMap.insert (joinPath sections key) value }

/-- The state behind some lines. -/
def parseYamlLines (lines : List Bytes) : YamlState :=
  lines.foldl (fun state line => parseYamlLine line state) {}

/-! ## Lines that say something -/

/-- What a line says. -/
structure ConfigLine where
  /-- Number of leading spaces and tabs. -/
  indent : Nat
  /-- What stands in front of the first colon. -/
  key : Bytes
  /-- What stands behind it. -/
  value : Bytes
  deriving DecidableEq

/-- The line without its comment. -/
def uncomment (line : Bytes) : Bytes :=
  line.takeWhile (· ≠ hash)

/-- The text of a line in front of its first `#`. -/
def Uncomments (line code : Bytes) : Prop :=
  hash ∉ code ∧ (line = code ∨ ∃ comment, line = code ++ hash :: comment)

theorem uncomment_eq_iff {line code : Bytes} : uncomment line = code ↔ Uncomments line code := by
  have kept : ∀ {text : Bytes}, hash ∉ text → ∀ byte ∈ text, decide (byte ≠ hash) = true := by
    intro text absent byte member
    exact decide_eq_true fun same => absent (same ▸ member)
  constructor
  · rintro rfl
    refine ⟨fun member => by simpa using List.mem_takeWhile_imp member, ?_⟩
    have whole : uncomment line ++ line.dropWhile (· ≠ hash) = line :=
      List.takeWhile_append_dropWhile
    have stopped := List.head?_dropWhile_not (fun byte => decide (byte ≠ hash)) line
    cases behind : line.dropWhile (· ≠ hash) with
    | nil =>
        rw [behind, List.append_nil] at whole
        exact Or.inl whole.symm
    | cons byte comment =>
        rw [behind] at stopped whole
        obtain rfl : byte = hash := by simpa using stopped
        exact Or.inr ⟨comment, whole.symm⟩
  · rintro ⟨absent, rfl | ⟨comment, rfl⟩⟩
    · exact List.takeWhile_eq_self_iff.mpr (kept absent)
    · exact (takeWhile_append_eq (kept absent) (by simp)).1

/-- What an effective line says. -/
def effective (line : Bytes) : Option ConfigLine :=
  let trimmed := trimCopy (uncomment line)
  if trimmed ≠ [] ∧ colon ∈ trimmed then
    some
      { indent := countIndent (uncomment line)
        key := stripQuotes (trimCopy (trimmed.takeWhile (· ≠ colon)))
        value := stripQuotes (trimCopy ((trimmed.dropWhile (· ≠ colon)).drop 1)) }
  else none

/-- What an effective line says, without reference to the functions that read it: in front of its
comment its trimmed text has a colon; the key and the value are the texts around the first one,
trimmed and without quotes. -/
def Says (line : Bytes) (item : ConfigLine) : Prop :=
  ∃ code trimmed front back, Uncomments line code ∧ Trims code trimmed ∧
    trimmed = front ++ colon :: back ∧ colon ∉ front ∧ Indents code item.indent ∧
    (∃ key, Trims front key ∧ Unquotes key item.key) ∧
    ∃ value, Trims back value ∧ Unquotes value item.value

theorem effective_eq_some_iff {line : Bytes} {item : ConfigLine} :
    effective line = some item ↔ Says line item := by
  have around : ∀ {front back : Bytes}, colon ∉ front →
      (front ++ colon :: back).takeWhile (· ≠ colon) = front ∧
        (front ++ colon :: back).dropWhile (· ≠ colon) = colon :: back :=
    fun absent => takeWhile_append_eq
      (fun byte member => decide_eq_true fun same => absent (same ▸ member)) (by simp)
  simp only [effective]
  constructor
  · intro read
    obtain ⟨⟨-, present⟩, same⟩ := Option.ite_none_right_eq_some.mp read
    obtain rfl := Option.some.inj same
    obtain ⟨front, back, whole, absent⟩ := List.eq_append_cons_of_mem present
    refine ⟨uncomment line, _, front, back, uncomment_eq_iff.mp rfl, trimCopy_eq_iff.mp rfl, whole,
      absent, countIndent_eq_iff.mp rfl, ⟨_, trimCopy_eq_iff.mp rfl, stripQuotes_eq_iff.mp ?_⟩,
      _, trimCopy_eq_iff.mp rfl, stripQuotes_eq_iff.mp ?_⟩
    · rw [whole, (around absent).1]
    · rw [whole, (around absent).2, List.drop_one, List.tail_cons]
  · rintro ⟨code, trimmed, front, back, uncomments, trims, whole, absent, indents,
      ⟨key, key_trims, key_eq⟩, ⟨value, value_trims, value_eq⟩⟩
    rw [← uncomment_eq_iff] at uncomments
    rw [← trimCopy_eq_iff] at trims key_trims value_trims
    rw [← stripQuotes_eq_iff] at key_eq value_eq
    rw [← countIndent_eq_iff] at indents
    rw [uncomments, trims, whole, if_pos ⟨by simp, by simp⟩, (around absent).1, (around absent).2,
      List.drop_one, List.tail_cons, key_trims, value_trims, key_eq, value_eq, indents]

/-- The effective lines in their order. -/
def effectiveLines (lines : List Bytes) : List ConfigLine :=
  lines.filterMap effective

/-- What an effective line does to the state. -/
def YamlState.apply (state : YamlState) (line : ConfigLine) : YamlState :=
  let sections := MonotoneStack.pop Prod.fst line.indent state.sections
  if line.value = [] then { state with sections := sections ++ [(line.indent, line.key)] }
  else
    { sections := sections
      configMap := state.configMap.insert (joinPath sections line.key) line.value }

/-- A line does what it says. -/
theorem parseYamlLine_eq (line : Bytes) (state : YamlState) :
    parseYamlLine line state =
      match effective line with
      | none => state
      | some item => state.apply item := by
  have commented := cut_idxOf? hash line
  have code : (match line.idxOf? hash with
      | none => line
      | some comment => line.take comment) = uncomment line := by
    cases found : line.idxOf? hash with
    | none =>
        rw [found] at commented
        refine (List.takeWhile_eq_self_iff.mpr fun byte member => ?_).symm
        exact decide_eq_true fun same => commented (same ▸ member)
    | some index =>
        rw [found] at commented
        exact commented.2.1
  simp only [parseYamlLine, code, effective]
  by_cases blank : trimCopy (uncomment line) = []
  · simp [blank]
  · have delimited := cut_idxOf? colon (trimCopy (uncomment line))
    cases found : (trimCopy (uncomment line)).idxOf? colon with
    | none =>
        rw [found] at delimited
        simp [blank, delimited]
    | some delimiter =>
        rw [found] at delimited
        obtain ⟨present, front_eq, back_eq⟩ := delimited
        rw [if_neg blank, if_pos ⟨blank, present⟩]
        simp only [front_eq, back_eq]
        rfl

theorem parseYamlLines_eq (lines : List Bytes) :
    parseYamlLines lines = (effectiveLines lines).foldl YamlState.apply {} := by
  have fold : ∀ (lines : List Bytes) (state : YamlState),
      lines.foldl (fun state line => parseYamlLine line state) state =
        (lines.filterMap effective).foldl YamlState.apply state := by
    intro lines
    induction lines with
    | nil => exact fun state => rfl
    | cons line lines ih =>
        intro state
        rw [List.foldl_cons, ih, parseYamlLine_eq, List.filterMap_cons]
        cases effective line with
        | none => rfl
        | some item => rfl
  exact fold lines {}

/-! ## Sections and paths -/

/-- A line without a value opens a section. -/
def ConfigLine.opens (line : ConfigLine) : Bool :=
  line.value = []

/-- What the stack holds for a section. -/
def ConfigLine.entry (line : ConfigLine) : Nat × Bytes :=
  (line.indent, line.key)

/-- The sections around a line: the earlier lines without a value such that every line behind them,
up to the line itself, is indented deeper. -/
def enclosing (front : List ConfigLine) (line : ConfigLine) : List ConfigLine :=
  MonotoneStack.enclosing ConfigLine.indent ConfigLine.opens line front

/-- The path of a line: the keys of the sections around it and its own. -/
def pathOf (front : List ConfigLine) (line : ConfigLine) : Bytes :=
  List.intercalate [dot] ((enclosing front line).map ConfigLine.key ++ [line.key])

/-- The paths and values that lines set, in their order; `front` are the lines before them. -/
def settings : List ConfigLine → List ConfigLine → List (Bytes × Bytes)
  | _, [] => []
  | front, line :: behind =>
      (if line.value = [] then [] else [(pathOf front line, line.value)]) ++
        settings (front ++ [line]) behind

theorem settings_concat (front lines : List ConfigLine) (line : ConfigLine) :
    settings front (lines ++ [line]) =
      settings front lines ++
        if line.value = [] then [] else [(pathOf (front ++ lines) line, line.value)] := by
  induction lines generalizing front with
  | nil => simp [settings]
  | cons first lines ih =>
      rw [List.cons_append, settings, ih, settings, List.append_assoc, List.append_assoc]
      rfl

theorem sections_apply (state : YamlState) (line : ConfigLine) :
    (state.apply line).sections =
      MonotoneStack.pop Prod.fst line.indent state.sections ++
        if line.opens then [line.entry] else [] := by
  simp only [YamlState.apply, ConfigLine.opens, ConfigLine.entry, decide_eq_true_eq]
  split_ifs
  · rfl
  · rw [List.append_nil]

/-- A line does to the sections what it does to a stack of lines. -/
theorem sections_apply_eq_push {state : YamlState} {stack : List ConfigLine}
    (held : state.sections = stack.map ConfigLine.entry) (line : ConfigLine) :
    (state.apply line).sections =
      (MonotoneStack.push ConfigLine.indent ConfigLine.opens stack line).map ConfigLine.entry := by
  rw [sections_apply, held, MonotoneStack.pop_map, MonotoneStack.push, List.map_append]
  cases line.opens <;> rfl

/-- The stack behind some lines holds the sections that are still open. -/
theorem sections_foldl (lines : List ConfigLine) :
    (lines.foldl YamlState.apply {}).sections =
      (MonotoneStack.visible ConfigLine.indent ConfigLine.opens lines).map
        ConfigLine.entry := by
  have simulated : ∀ (state : YamlState) (stack : List ConfigLine),
      state.sections = stack.map ConfigLine.entry →
        (lines.foldl YamlState.apply state).sections =
          (lines.foldl (MonotoneStack.push ConfigLine.indent ConfigLine.opens) stack).map
            ConfigLine.entry := by
    induction lines with
    | nil => exact fun _ _ held => held
    | cons line lines ih =>
        intro state stack held
        exact ih _ _ (sections_apply_eq_push held line)
  rw [simulated {} [] rfl, MonotoneStack.foldl_push]

/-- Behind the first key, each key follows a dot. -/
theorem intercalate_cons (first : Bytes) (keys : List Bytes) :
    List.intercalate [dot] (first :: keys) = first ++ keys.flatMap fun key => dot :: key := by
  induction keys generalizing first with
  | nil => simp
  | cons key keys ih =>
      rw [List.intercalate_cons_cons, ih, List.flatMap_cons]
      simp

/-- The path of a key below sections with names is joined with dots. -/
theorem joinPath_eq {sections : List (Nat × Bytes)} (named : ∀ section_ ∈ sections, section_.2 ≠ [])
    (key : Bytes) :
    joinPath sections key = List.intercalate [dot] (sections.map Prod.snd ++ [key]) := by
  have fold : ∀ (sections : List (Nat × Bytes)) (path : Bytes), path ≠ [] →
      sections.foldl
        (fun path section_ => (if path = [] then path else path ++ [dot]) ++ section_.2) path =
          path ++ (sections.map Prod.snd).flatMap fun key => dot :: key := by
    intro sections
    induction sections with
    | nil => simp
    | cons section_ sections ih =>
        intro path nonempty
        rw [List.foldl_cons, if_neg nonempty, ih _ (by simp)]
        simp
  cases sections with
  | nil => simp [joinPath]
  | cons section_ sections =>
      have nonempty : section_.2 ≠ [] := named section_ List.mem_cons_self
      have first : ([] : Bytes) ++ section_.2 ≠ [] := by simpa using nonempty
      rw [joinPath, List.foldl_cons, if_pos rfl, fold sections _ first, List.map_cons,
        List.cons_append, intercalate_cons]
      simp [nonempty]

/-- Lookup in a map that was filled by insertions finds the last one. -/
theorem lookup_foldl_insert (entries : List (Bytes × Bytes)) (path value : Bytes) :
    (entries.foldl (fun (map : AList fun _ : Bytes => Bytes) entry =>
        map.insert entry.1 entry.2) ∅).lookup path = some value ↔
      ∃ front behind, entries = front ++ (path, value) :: behind ∧
        ∀ later ∈ behind, later.1 ≠ path := by
  induction entries using List.reverseRecOn with
  | nil => simp
  | append_singleton entries entry ih =>
      obtain ⟨last, last_value⟩ := entry
      rw [List.foldl_append, List.foldl_cons, List.foldl_nil]
      constructor
      · intro found
        by_cases same : path = last
        · subst same
          rw [AList.lookup_insert] at found
          obtain rfl := Option.some.inj found
          exact ⟨entries, [], rfl, by simp⟩
        · rw [AList.lookup_insert_ne same] at found
          obtain ⟨front, behind, rfl, others⟩ := ih.mp found
          refine ⟨front, behind ++ [(last, last_value)], by simp, ?_⟩
          intro later member
          rcases List.mem_append.mp member with member | member
          · exact others later member
          · rw [List.mem_singleton.mp member]
            exact Ne.symm same
      · rintro ⟨front, behind, split_eq, others⟩
        rcases List.eq_nil_or_concat behind with rfl | ⟨behind, final, rfl⟩
        · obtain ⟨-, entry_eq⟩ := List.append_inj' split_eq rfl
          obtain ⟨rfl, rfl⟩ := Prod.mk.inj (List.singleton_inj.mp entry_eq)
          exact AList.lookup_insert _
        · rw [List.concat_eq_append, ← List.cons_append, ← List.append_assoc] at split_eq
          obtain ⟨entries_eq, entry_eq⟩ := List.append_inj' split_eq rfl
          obtain rfl := List.singleton_inj.mp entry_eq
          have other : path ≠ last := Ne.symm (others (last, last_value) (by simp))
          rw [AList.lookup_insert_ne other]
          exact ih.mpr ⟨front, behind, entries_eq, fun later member =>
            others later (by simp [member])⟩

/-- The map behind some lines with keys was filled with their settings. -/
theorem configMap_foldl {lines : List ConfigLine} (named : ∀ line ∈ lines, line.key ≠ []) :
    (lines.foldl YamlState.apply {}).configMap =
      (settings [] lines).foldl (fun (map : AList fun _ : Bytes => Bytes) entry =>
        map.insert entry.1 entry.2) ∅ := by
  induction lines using List.reverseRecOn with
  | nil => rfl
  | append_singleton lines line ih =>
      have earlier := ih fun other member => named other (List.mem_append_left _ member)
      have popped : MonotoneStack.pop Prod.fst line.indent
          (lines.foldl YamlState.apply {}).sections =
            (enclosing lines line).map ConfigLine.entry := by
        rw [sections_foldl, MonotoneStack.pop_map, enclosing, ← MonotoneStack.pop_visible]
        rfl
      have section_named : ∀ section_ ∈ (enclosing lines line).map ConfigLine.entry,
          section_.2 ≠ [] := by
        intro section_ member
        obtain ⟨outer, outer_member, rfl⟩ := List.mem_map.mp member
        rw [enclosing, MonotoneStack.enclosing_eq_filter] at outer_member
        exact named outer (List.mem_append_left _
          (MonotoneStack.mem_of_mem_visible (List.mem_of_mem_filter outer_member)))
      have path_eq : joinPath ((enclosing lines line).map ConfigLine.entry) line.key =
          pathOf lines line := by
        rw [joinPath_eq section_named, List.map_map]
        rfl
      rw [List.foldl_append, List.foldl_cons, List.foldl_nil, settings_concat, YamlState.apply,
        popped, path_eq, List.nil_append, List.foldl_append]
      split_ifs
      · exact earlier
      · simp only [earlier, List.foldl_cons, List.foldl_nil]

/-- The effective lines are read as `Says` words it, and for every list of lines the stack holds
strictly increasing indentations.  If all effective lines have keys, the map holds exactly what the
effective lines with a value set, each at the keys of the sections around it and its own, and later
lines overwrite earlier ones. -/
theorem parseYamlLines_spec (lines : List Bytes) :
    (∀ line item, effective line = some item ↔ Says line item) ∧
      (parseYamlLines lines).sections.Pairwise (fun outer inner => outer.1 < inner.1) ∧
      ((∀ line ∈ effectiveLines lines, line.key ≠ []) → ∀ path value,
        (parseYamlLines lines).configMap.lookup path = some value ↔
          ∃ front behind, settings [] (effectiveLines lines) = front ++ (path, value) :: behind ∧
            ∀ later ∈ behind, later.1 ≠ path) := by
  rw [parseYamlLines_eq]
  refine ⟨fun line item => effective_eq_some_iff, ?_, ?_⟩
  · rw [sections_foldl, List.pairwise_map]
    exact MonotoneStack.pairwise_visible (effectiveLines lines)
  · intro named path value
    rw [configMap_foldl named]
    exact lookup_foldl_insert _ path value

/-- A file with two sections, a comment, a quoted value and a value that is set twice. -/
def sampleLines : List Bytes :=
  [text "server:\n", text "  host: 'a' # b\n", text "  log:\n", text "    level: 1\n",
    text "\n", text "  host: c\n", text "client:\n", text " host: d\n"]

theorem parseYamlLines_sample :
    (parseYamlLines sampleLines).configMap.lookup (text "server.host") = some (text "c") ∧
      (parseYamlLines sampleLines).configMap.lookup (text "server.log.level") = some (text "1") ∧
      (parseYamlLines sampleLines).configMap.lookup (text "client.host") = some (text "d") ∧
      (parseYamlLines sampleLines).configMap.lookup (text "server.log.host") = none ∧
      Says (text "  host: 'a' # b\n") ⟨2, text "host", text "a"⟩ := by
  obtain ⟨said, -, holds⟩ := parseYamlLines_spec sampleLines
  have found := holds (by decide +kernel)
  let first := (text "server.host", text "a")
  let level := (text "server.log.level", text "1")
  let second := (text "server.host", text "c")
  let client := (text "client.host", text "d")
  have set_eq : settings [] (effectiveLines sampleLines) = [first, level, second, client] := by
    decide +kernel
  refine ⟨(found _ _).mpr ⟨[first, level], [client], set_eq, by decide⟩,
    (found _ _).mpr ⟨[first], [second, client], set_eq, by decide⟩,
    (found _ _).mpr ⟨[first, level, second], [], set_eq, by decide⟩, ?_,
    (said _ _).mp (by decide +kernel)⟩
  rw [Option.eq_none_iff_forall_ne_some]
  intro value some_value
  obtain ⟨front, behind, split_eq, -⟩ := (found _ value).mp some_value
  have member : (text "server.log.host", value) ∈ [first, level, second, client] := by
    rw [← set_eq, split_eq]
    simp
  have paths : text "server.log.host" ∈ [first, level, second, client].map Prod.fst :=
    List.mem_map_of_mem member
  revert paths
  decide

example : (parseYamlLines sampleLines).sections = [(0, text "client")] := by
  decide +kernel

end Config

end Hxrpc
