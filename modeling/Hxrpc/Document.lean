import Hxrpc.ConfigFile

/-!
# Documents

What a configuration file is for: groups of named values, one inside the other.  A document can be
written with any indentation, with quotes, blanks and remarks, and loading the file gives its values
by their paths.
-/

namespace Hxrpc

namespace Config

/-- Values and groups, one after another. -/
inductive Document where
  | nil
  | value (key value : Bytes) (rest : Document)
  | group (key : Bytes) (children rest : Document)

/-- The values of a document by their paths, below the keys of the groups around it. -/
def Document.flatten : Document → List Bytes → List (Bytes × Bytes)
  | .nil, _ => []
  | .value key content rest, outer =>
      (List.intercalate [dot] (outer ++ [key]), content) :: rest.flatten outer
  | .group key children rest, outer =>
      children.flatten (outer ++ [key]) ++ rest.flatten outer

/-! ## Lines -/

/-- How a word stands on a line. -/
inductive Quoting where
  | bare
  | single
  | double
  deriving DecidableEq

/-- A word with its quotes. -/
def Quoting.around (quoting : Quoting) (word : Bytes) : Bytes :=
  match quoting with
  | .bare => word
  | .single => singleQuote :: word ++ [singleQuote]
  | .double => doubleQuote :: word ++ [doubleQuote]

theorem trimmed_iff {value : Bytes} : Trimmed value ↔ trimCopy value = value := by
  constructor
  · exact trimCopy_of_trimmed
  · intro same
    obtain ⟨-, -, -, -, -, first, last⟩ := trimCopy_spec value
    rw [same] at first last
    exact ⟨first, last⟩

instance (value : Bytes) : Decidable (Trimmed value) :=
  decidable_of_iff _ trimmed_iff.symm

/-- The word can stand so: no comment starts inside, and a bare word has no blanks at its ends and
is not quoted itself. -/
structure Quoting.Suits (quoting : Quoting) (word : Bytes) : Prop where
  no_hash : hash ∉ word
  bare : quoting = .bare → Trimmed word ∧ stripQuotes word = word

instance Quoting.decidableSuits (quoting : Quoting) (word : Bytes) :
    Decidable (quoting.Suits word) :=
  decidable_of_iff (hash ∉ word ∧ (quoting = .bare → Trimmed word ∧ stripQuotes word = word))
    ⟨fun ⟨no_hash, ends⟩ => ⟨no_hash, ends⟩, fun ⟨no_hash, ends⟩ => ⟨no_hash, ends⟩⟩

theorem blank_nil : ∀ byte ∈ ([] : Bytes), isBlank byte = true :=
  List.forall_mem_nil _

/-- Everything on a line besides its key and its value. -/
structure Layout where
  /-- Spaces and tabs in front. -/
  indent : Bytes := []
  /-- How the key stands. -/
  keyQuoting : Quoting := .bare
  /-- In front of the colon. -/
  beforeColon : Blanks := ⟨[], blank_nil⟩
  /-- Behind the colon. -/
  afterColon : Blanks := ⟨[], blank_nil⟩
  /-- How the value stands. -/
  valueQuoting : Quoting := .bare
  /-- Behind the value. -/
  back : Blanks := ⟨[], blank_nil⟩
  /-- What follows a `#`. -/
  remark : Option Bytes := none

/-- What stands in front of the colon. -/
def Layout.front (layout : Layout) (key : Bytes) : Bytes :=
  layout.indent ++ (layout.keyQuoting.around key ++ layout.beforeColon.1)

/-- What stands behind the colon, up to the remark. -/
def Layout.behind (layout : Layout) (value : Bytes) : Bytes :=
  layout.afterColon.1 ++ (layout.valueQuoting.around value ++ layout.back.1)

/-- A line with a key and a value. -/
def Layout.line (layout : Layout) (key value : Bytes) : Bytes :=
  (layout.front key ++ colon :: layout.behind value) ++
    match layout.remark with
    | none => []
    | some remark => hash :: remark

/-- The key and the value can be written so. -/
structure Layout.Suits (layout : Layout) (key value : Bytes) : Prop where
  indent : ∀ byte ∈ layout.indent, isIndent byte = true
  key_ne : key ≠ []
  key_free : colon ∉ key
  key : layout.keyQuoting.Suits key
  value : layout.valueQuoting.Suits value

instance Layout.decidableSuits (layout : Layout) (key value : Bytes) :
    Decidable (layout.Suits key value) :=
  decidable_of_iff
    (layout.indent.all isIndent = true ∧ key ≠ [] ∧ colon ∉ key ∧
      layout.keyQuoting.Suits key ∧ layout.valueQuoting.Suits value)
    ⟨fun ⟨spaces, key_ne, key_free, own, content⟩ =>
        ⟨List.all_eq_true.mp spaces, key_ne, key_free, own, content⟩,
      fun ⟨spaces, key_ne, key_free, own, content⟩ =>
        ⟨List.all_eq_true.mpr spaces, key_ne, key_free, own, content⟩⟩

/-- Lines that say what the document has, at one depth; groups are indented deeper, and lines that
say nothing may stand anywhere. -/
inductive Prints : Nat → Document → List Bytes → Prop
  | nil {depth : Nat} : Prints depth .nil []
  | remark {depth : Nat} {document : Document} {line : Bytes} {lines : List Bytes}
      (silent : colon ∉ uncomment line) (behind : Prints depth document lines) :
      Prints depth document (line :: lines)
  | value {depth : Nat} {key value : Bytes} {rest : Document} {lines : List Bytes}
      (layout : Layout) (indented : layout.indent.length = depth)
      (suits : layout.Suits key value) (nonempty : value ≠ []) (behind : Prints depth rest lines) :
      Prints depth (.value key value rest) (layout.line key value :: lines)
  | group {depth inner : Nat} {key : Bytes} {children rest : Document}
      {within lines : List Bytes} (layout : Layout) (indented : layout.indent.length = depth)
      (suits : layout.Suits key []) (deeper : depth < inner)
      (inside : Prints inner children within) (behind : Prints depth rest lines) :
      Prints depth (.group key children rest) (layout.line key [] :: (within ++ lines))

theorem isBlank_of_isIndent {byte : UInt8} (indent : isIndent byte = true) :
    isBlank byte = true := by
  simp only [isIndent, isBlank, decide_eq_true_eq] at indent ⊢
  rcases indent with space | tab
  · exact Or.inl space
  · exact Or.inr (Or.inl tab)

/-- Between quotes a word keeps its ends. -/
theorem trimmed_quoted {quote : UInt8} (solid : isBlank quote = false) (word : Bytes) :
    Trimmed (quote :: word ++ [quote]) := by
  constructor
  · intro byte first
    obtain rfl := Option.some.inj first
    exact solid
  · intro byte last
    rw [List.getLast?_append_of_ne_nil _ (List.cons_ne_nil _ _)] at last
    obtain rfl := Option.some.inj last
    exact solid

namespace Quoting.Suits

variable {quoting : Quoting} {word : Bytes}

theorem trimmed (suits : quoting.Suits word) : Trimmed (quoting.around word) := by
  cases quoting with
  | bare => exact (suits.bare rfl).1
  | single => exact trimmed_quoted rfl word
  | double => exact trimmed_quoted rfl word

theorem stripQuotes_around (suits : quoting.Suits word) :
    stripQuotes (quoting.around word) = word := by
  cases quoting with
  | bare => exact (suits.bare rfl).2
  | single => exact stripQuotes_quoted (Or.inr rfl) word
  | double => exact stripQuotes_quoted (Or.inl rfl) word

end Quoting.Suits

/-- Quotes bring no byte that is not a quote. -/
theorem Quoting.notMem_around {byte : UInt8} (not_single : byte ≠ singleQuote)
    (not_double : byte ≠ doubleQuote) {word : Bytes} (absent : byte ∉ word) (quoting : Quoting) :
    byte ∉ quoting.around word := by
  cases quoting with
  | bare => exact absent
  | single => simp [Quoting.around, not_single, absent]
  | double => simp [Quoting.around, not_double, absent]

/-- A word that is not empty does not start with a blank, nor does its quoted form. -/
theorem Quoting.Suits.head_around {quoting : Quoting} {word : Bytes} (suits : quoting.Suits word)
    (nonempty : word ≠ []) :
    ∃ head rest, quoting.around word = head :: rest ∧ isBlank head = false := by
  have around_ne : quoting.around word ≠ [] := by
    cases quoting with
    | bare => exact nonempty
    | single => exact List.cons_ne_nil _ _
    | double => exact List.cons_ne_nil _ _
  obtain ⟨head, rest, whole⟩ := List.exists_cons_of_ne_nil around_ne
  exact ⟨head, rest, whole, suits.trimmed.first head (by rw [whole]; rfl)⟩

section Lines

variable {layout : Layout} {key value : Bytes}

theorem Layout.Suits.hash_notMem_front (suits : layout.Suits key value) :
    hash ∉ layout.front key := by
  have no_indent : hash ∉ layout.indent :=
    fun member => absurd (suits.indent hash member) (by decide)
  have no_key := Quoting.notMem_around (by decide) (by decide) suits.key.no_hash layout.keyQuoting
  have no_blank : hash ∉ layout.beforeColon.1 := notMem_of_blank rfl layout.beforeColon.2
  simp [Layout.front, no_indent, no_key, no_blank]

theorem Layout.Suits.hash_notMem_behind (suits : layout.Suits key value) :
    hash ∉ layout.behind value := by
  have no_value :=
    Quoting.notMem_around (by decide) (by decide) suits.value.no_hash layout.valueQuoting
  have after : hash ∉ layout.afterColon.1 := notMem_of_blank rfl layout.afterColon.2
  have back : hash ∉ layout.back.1 := notMem_of_blank rfl layout.back.2
  simp [Layout.behind, no_value, after, back]

theorem Layout.Suits.colon_notMem_front (suits : layout.Suits key value) :
    colon ∉ layout.front key := by
  have no_indent : colon ∉ layout.indent :=
    fun member => absurd (suits.indent colon member) (by decide)
  have no_key := Quoting.notMem_around (by decide) (by decide) suits.key_free layout.keyQuoting
  have no_blank : colon ∉ layout.beforeColon.1 := notMem_of_blank rfl layout.beforeColon.2
  simp [Layout.front, no_indent, no_key, no_blank]

/-- The remark is no part of the line. -/
theorem uncomment_line (suits : layout.Suits key value) :
    uncomment (layout.line key value) = layout.front key ++ colon :: layout.behind value := by
  have free : hash ∉ layout.front key ++ colon :: layout.behind value := by
    have ne : hash ≠ colon := by decide
    simp [suits.hash_notMem_front, suits.hash_notMem_behind, ne]
  rw [Layout.line]
  cases layout.remark with
  | none =>
      rw [List.append_nil]
      exact uncomment_of_notMem free
  | some remark =>
      rw [uncomment_append_of_notMem free]
      simp [uncomment]

/-- The indentation of a line is what stands in front of its key. -/
theorem countIndent_line (suits : layout.Suits key value) :
    countIndent (layout.front key ++ colon :: layout.behind value) = layout.indent.length := by
  obtain ⟨head, rest, around, solid⟩ := suits.key.head_around suits.key_ne
  have stops : ¬ isIndent head = true := by
    intro indent
    rw [isBlank_of_isIndent indent] at solid
    cases solid
  rw [countIndent, Layout.front, around, List.append_assoc,
    List.takeWhile_append_of_pos suits.indent]
  simp [stops]

/-- A line says its key and its value. -/
theorem effective_line (suits : layout.Suits key value) :
    effective (layout.line key value) = some ⟨layout.indent.length, key, value⟩ := by
  have blank : ∀ byte ∈ layout.indent, isBlank byte = true :=
    fun byte member => isBlank_of_isIndent (suits.indent byte member)
  have key_eq : trimCopy (layout.front key) = layout.keyQuoting.around key := by
    rw [Layout.front, trimCopy_append_left ⟨layout.indent, blank⟩, trimCopy_append_right,
      trimCopy_of_trimmed suits.key.trimmed]
  have value_eq : trimCopy (layout.behind value) = layout.valueQuoting.around value := by
    rw [Layout.behind, trimCopy_append_left, trimCopy_append_right,
      trimCopy_of_trimmed suits.value.trimmed]
  rw [effective_eq, entry, uncomment_line suits, written_of_cut suits.colon_notMem_front,
    countIndent_line suits, key_eq, value_eq, Option.map_some, ConfigLine.unquoted,
    suits.key.stripQuotes_around, suits.value.stripQuotes_around]

end Lines

theorem effective_of_silent {line : Bytes} (silent : colon ∉ uncomment line) :
    effective line = none := by
  rw [effective_eq, entry_eq_none_iff.mpr silent, Option.map_none]

/-! ## Writing a document -/

/-- A plain line: one space for each level, and both words in double quotes. -/
def Layout.plain (depth : Nat) : Layout :=
  { indent := List.replicate depth 32, keyQuoting := .double, valueQuoting := .double }

/-- A document on plain lines. -/
def Document.lines : Document → Nat → List Bytes
  | .nil, _ => []
  | .value key content rest, depth => (Layout.plain depth).line key content :: rest.lines depth
  | .group key children rest, depth =>
      (Layout.plain depth).line key [] :: (children.lines (depth + 1) ++ rest.lines depth)

/-- No word is empty or has a `#`, and no key has a colon. -/
def Document.writable : Document → Bool
  | .nil => true
  | .value key content rest =>
      (key ≠ [] ∧ hash ∉ key ∧ colon ∉ key) ∧ (content ≠ [] ∧ hash ∉ content) ∧ rest.writable
  | .group key children rest =>
      (key ≠ [] ∧ hash ∉ key ∧ colon ∉ key) ∧ children.writable ∧ rest.writable

theorem plain_suits (depth : Nat) {key value : Bytes} (key_ne : key ≠ []) (key_hash : hash ∉ key)
    (key_colon : colon ∉ key) (value_hash : hash ∉ value) :
    (Layout.plain depth).Suits key value where
  indent byte member := by
    rw [List.eq_of_mem_replicate member]
    rfl
  key_ne := key_ne
  key_free := key_colon
  key := ⟨key_hash, fun bare => by cases bare⟩
  value := ⟨value_hash, fun bare => by cases bare⟩

/-- Plain lines print the document. -/
theorem prints_lines {document : Document} (writable : document.writable = true) (depth : Nat) :
    Prints depth document (document.lines depth) := by
  induction document generalizing depth with
  | nil => exact .nil
  | value key content rest ih =>
      simp only [Document.writable, decide_eq_true_eq] at writable
      obtain ⟨⟨key_ne, key_hash, key_colon⟩, ⟨content_ne, content_hash⟩, behind⟩ := writable
      exact .value _ List.length_replicate
        (plain_suits depth key_ne key_hash key_colon content_hash) content_ne (ih behind depth)
  | group key children rest ih_children ih_rest =>
      simp only [Document.writable, decide_eq_true_eq] at writable
      obtain ⟨⟨key_ne, key_hash, key_colon⟩, inside, behind⟩ := writable
      exact .group _ List.length_replicate
        (plain_suits depth key_ne key_hash key_colon List.not_mem_nil) (Nat.lt_succ_self depth)
        (ih_children inside (depth + 1)) (ih_rest behind depth)

/-! ## Reading a document -/

/-- The map with some values inserted. -/
def insertAll (map : AList fun _ : Bytes => Bytes) (entries : List (Bytes × Bytes)) :
    AList fun _ : Bytes => Bytes :=
  entries.foldl (fun map entry => map.insert entry.1 entry.2) map

theorem insertAll_append (map : AList fun _ : Bytes => Bytes)
    (front behind : List (Bytes × Bytes)) :
    insertAll map (front ++ behind) = insertAll (insertAll map front) behind :=
  List.foldl_append

/-- The state at a depth: the sections around it, all with names. -/
structure Below (depth : Nat) (stack : List (Nat × Bytes)) (state : YamlState) : Prop where
  popped : MonotoneStack.pop Prod.fst depth state.sections = stack
  named : ∀ section_ ∈ stack, section_.2 ≠ []

namespace Below

variable {depth : Nat} {stack : List (Nat × Bytes)} {state : YamlState}

/-- The sections around a line stay where they are. -/
theorem pop_stack (below : Below depth stack state) :
    MonotoneStack.pop Prod.fst depth stack = stack := by
  rw [← below.popped, MonotoneStack.pop_pop le_rfl]

/-- A value is stored under its path, and no section changes. -/
theorem apply_value (below : Below depth stack state) {key value : Bytes} (nonempty : value ≠ []) :
    Below depth stack (state.apply ⟨depth, key, value⟩) ∧
      (state.apply ⟨depth, key, value⟩).configMap =
        state.configMap.insert (List.intercalate [dot] (stack.map Prod.snd ++ [key])) value := by
  rw [YamlState.apply, if_neg nonempty]
  simp only [below.popped]
  rw [joinPath_eq below.named]
  exact ⟨⟨below.pop_stack, below.named⟩, rfl⟩

/-- A group opens its section for what is deeper. -/
theorem apply_group (below : Below depth stack state) {key : Bytes} (key_ne : key ≠ [])
    {inner : Nat} (deeper : depth < inner) :
    Below inner (stack ++ [(depth, key)]) (state.apply ⟨depth, key, []⟩) ∧
      (state.apply ⟨depth, key, []⟩).configMap = state.configMap := by
  rw [YamlState.apply, if_pos rfl]
  simp only [below.popped, and_true]
  constructor
  · exact MonotoneStack.pop_concat_of_lt deeper stack
  · intro section_ member
    rcases List.mem_append.mp member with outer | own
    · exact below.named section_ outer
    · rw [List.mem_singleton.mp own]
      exact key_ne

/-- Behind a group its section is closed. -/
theorem leave {key : Bytes} {inner : Nat} (outer : MonotoneStack.pop Prod.fst depth stack = stack)
    (deeper : depth < inner) (below : Below inner (stack ++ [(depth, key)]) state) :
    Below depth stack state where
  popped := by
    rw [← MonotoneStack.pop_pop deeper.le, below.popped,
      MonotoneStack.pop_concat_of_le (le_refl depth), outer]
  named := fun section_ member => below.named section_ (List.mem_append_left _ member)

end Below

/-- Reading lines that print a document adds its values and leaves the sections around it.  The
induction is on the printed lines; the sections inside a group are those around it and its own. -/
theorem apply_of_prints {depth : Nat} {document : Document} {lines : List Bytes}
    (prints : Prints depth document lines) {stack : List (Nat × Bytes)} {state : YamlState}
    (below : Below depth stack state) :
    Below depth stack ((effectiveLines lines).foldl YamlState.apply state) ∧
      ((effectiveLines lines).foldl YamlState.apply state).configMap =
        insertAll state.configMap (document.flatten (stack.map Prod.snd)) := by
  induction prints generalizing stack state with
  | nil => exact ⟨below, rfl⟩
  | remark silent behind ih =>
      rw [effectiveLines, List.filterMap_cons_none (effective_of_silent silent)]
      exact ih below
  | value layout indented suits nonempty behind ih =>
      rw [effectiveLines, List.filterMap_cons_some (effective_line suits), indented,
        List.foldl_cons]
      obtain ⟨next, stored⟩ := below.apply_value nonempty
      obtain ⟨final, map_eq⟩ := ih next
      refine ⟨final, ?_⟩
      rw [← effectiveLines, map_eq, stored]
      rfl
  | group layout indented suits deeper inside behind ih_inside ih_behind =>
      rw [effectiveLines, List.filterMap_cons_some (effective_line suits), indented,
        List.foldl_cons, List.filterMap_append, List.foldl_append]
      obtain ⟨inner, kept⟩ := below.apply_group suits.key_ne deeper
      obtain ⟨within, within_map⟩ := ih_inside inner
      obtain ⟨final, map_eq⟩ := ih_behind (Below.leave below.pop_stack deeper within)
      refine ⟨final, ?_⟩
      rw [effectiveLines, effectiveLines] at map_eq
      rw [map_eq]
      rw [effectiveLines, kept, List.map_append] at within_map
      rw [within_map, Document.flatten, insertAll_append]
      rfl

/-- Lines that a file can have and that the buffer leaves whole. -/
structure Whole (lines : List Bytes) : Prop where
  no_newline : ∀ line ∈ lines, newline ∉ line
  no_null : ∀ line ∈ lines, (0 : UInt8) ∉ line
  uncut : ∀ line ∈ lines, Uncut line

/-- The text of a file with some lines. -/
def fileOf (lines : List Bytes) : Bytes :=
  List.intercalate [newline] lines

theorem mem_fileOf {byte : UInt8} {lines : List Bytes} (member : byte ∈ fileOf lines) :
    byte = newline ∨ ∃ line ∈ lines, byte ∈ line := by
  induction lines with
  | nil => simp [fileOf] at member
  | cons first lines ih =>
      cases lines with
      | nil => exact Or.inr ⟨first, List.mem_cons_self, by simpa [fileOf] using member⟩
      | cons second lines =>
          rw [fileOf, List.intercalate_cons_cons, ← fileOf, List.append_assoc, List.mem_append,
            List.mem_append, List.mem_singleton] at member
          rcases member with own | ends | later
          · exact Or.inr ⟨first, List.mem_cons_self, own⟩
          · exact Or.inl ends
          · rcases ih later with ends | ⟨line, line_member, inside⟩
            · exact Or.inl ends
            · exact Or.inr ⟨line, List.mem_cons_of_mem first line_member, inside⟩

namespace Whole

variable {lines : List Bytes}

theorem splitOn_fileOf (whole : Whole lines) (nonempty : lines ≠ []) :
    (fileOf lines).splitOn newline = lines :=
  List.splitOn_intercalate newline whole.no_newline nonempty

theorem null_notMem_fileOf (whole : Whole lines) : (0 : UInt8) ∉ fileOf lines := by
  intro member
  rcases mem_fileOf member with ends | ⟨line, line_member, inside⟩
  · exact absurd ends (by decide)
  · exact whole.no_null line line_member inside

theorem uncut_of_mem_splitOn (whole : Whole lines) :
    ∀ line ∈ (fileOf lines).splitOn newline, Uncut line := by
  rcases eq_or_ne lines [] with rfl | nonempty
  · intro line member
    obtain rfl : line = [] := by simpa [fileOf] using member
    exact uncut_of_length_le (Nat.zero_le _)
  · rw [whole.splitOn_fileOf nonempty]
    exact whole.uncut

theorem parseYamlLines_splitOn (whole : Whole lines) :
    parseYamlLines ((fileOf lines).splitOn newline) = parseYamlLines lines := by
  rcases eq_or_ne lines [] with rfl | nonempty
  · rfl
  · rw [whole.splitOn_fileOf nonempty]

end Whole

theorem loadConfigFile_eq_insertAll {depth : Nat} {document : Document} {lines : List Bytes}
    (prints : Prints depth document lines) (whole : Whole lines)
    (before : AList fun _ : Bytes => Bytes) :
    loadConfigFile before (some (fileOf lines)) =
      (.ok (), insertAll ∅ (document.flatten [])) := by
  have entries := (readEntries_eq_iff whole.null_notMem_fileOf).mpr whole.uncut_of_mem_splitOn
  have start : Below depth [] {} := ⟨rfl, fun section_ member => by cases member⟩
  have filled := (apply_of_prints prints start).2
  rw [loadConfigFile_eq, entries, ← parseYamlLines_eq_entries, whole.parseYamlLines_splitOn,
    parseYamlLines_eq, filled]
  rfl

/-- A file that prints a document leaves the values of the document, whatever was in the map before:
each is found under the keys of the groups around it and its own, joined with dots, and of several
values with one path the last.  Every writable document is printed at every depth. -/
theorem loadConfigFile_of_prints :
    (∀ {depth document lines}, Prints depth document lines → Whole lines → ∀ before,
      ∃ map, loadConfigFile before (some (fileOf lines)) = (.ok (), map) ∧
        ∀ path value, map.lookup path = some value ↔
          ∃ front behind, document.flatten [] = front ++ (path, value) :: behind ∧
            ∀ later ∈ behind, later.1 ≠ path) ∧
    ∀ (document : Document) depth, document.writable = true →
      Prints depth document (document.lines depth) := by
  constructor
  · intro depth document lines prints whole before
    exact ⟨_, loadConfigFile_eq_insertAll prints whole before,
      lookup_foldl_insert (document.flatten [])⟩
  · exact fun document depth writable => prints_lines writable depth

/-- A document with a group inside a group. -/
def sampleDocument : Document :=
  .group (text "server")
    (.group (text "log") (.value (text "level") (text " 1") .nil)
      (.value (text "host") (text "a:b") .nil))
    (.value (text "server.host") (text "c") .nil)

/-- A space. -/
def space : Blanks :=
  ⟨text " ", by simp [text, isBlank]⟩

/-- Its lines, with a remark, quotes and uneven indentation. -/
def sampleDocumentLines : List Bytes :=
  [({ remark := some (text " here") } : Layout).line (text "server") [],
    ({ indent := text " ", valueQuoting := .single } : Layout).line (text "log") [],
    ({ indent := text "   ", afterColon := space, valueQuoting := .double } : Layout).line
      (text "level") (text " 1"),
    text "# no entry",
    ({ indent := text " ", keyQuoting := .single } : Layout).line (text "host") (text "a:b"),
    ({ beforeColon := space } : Layout).line (text "server.host") (text "c"), []]

theorem prints_sampleDocument : Prints 0 sampleDocument sampleDocumentLines :=
  @Prints.group 0 1 _ _ _ [_, _, _, _] _ _ rfl (by decide +kernel) Nat.zero_lt_one
    (@Prints.group 1 3 _ _ _ [_, _] _ _ rfl (by decide +kernel) (by decide)
      (.value _ rfl (by decide +kernel) (by decide +kernel) (.remark (by decide +kernel) .nil))
      (.value _ rfl (by decide +kernel) (by decide +kernel) .nil))
    (.value _ rfl (by decide +kernel) (by decide +kernel) (.remark (by decide +kernel) .nil))

example : fileOf sampleDocumentLines =
    text "server:# here\n log:''\n   level: \" 1\"\n# no entry\n 'host':a:b\nserver.host :c\n" := by
  decide +kernel

theorem loadConfigFile_sampleDocument :
    ∃ map, loadConfigFile ∅ (some (fileOf sampleDocumentLines)) = (.ok (), map) ∧
      ∀ path value, map.lookup path = some value ↔
        ∃ front behind, sampleDocument.flatten [] = front ++ (path, value) :: behind ∧
          ∀ later ∈ behind, later.1 ≠ path := by
  have lines : ∀ line ∈ sampleDocumentLines,
      newline ∉ line ∧ (0 : UInt8) ∉ line ∧ line.length ≤ bufferWidth := by decide +kernel
  exact loadConfigFile_of_prints.1 prints_sampleDocument
    ⟨fun line member => (lines line member).1, fun line member => (lines line member).2.1,
      fun line member => uncut_of_length_le (lines line member).2.2⟩ ∅

end Config

end Hxrpc
