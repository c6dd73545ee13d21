import Mathlib.Data.List.Nodup
import Mathlib.Logic.ExistsUnique
import Mathlib.Logic.Function.Basic

/-!
# Custody of labelled tokens

Tokens carry a label while they exist.  A token is in the hands of one agent or lies once on one
shelf, the shelf of the key of its label; an agent only holds tokens with the label it wants, and a
shelf holds a limited number of them.  Taking a token from a shelf, minting and burning one and
putting one on its shelf keep custody.
-/

section Custody

variable {Token Agent Label Key : Type}

/-- Every token is in one place. -/
structure Custody (keyOf : Label → Key) (limit : Nat) (label : Token → Option Label)
    (holder : Agent → Option Token) (wanted : Agent → Option Label) (shelf : Key → List Token) :
    Prop where
  held : ∀ {agent token}, holder agent = some token →
    ∃ kind, wanted agent = some kind ∧ label token = some kind
  alone : ∀ {left right token}, holder left = some token → holder right = some token → left = right
  shelved : ∀ {key token}, token ∈ shelf key → ∃ kind, label token = some kind ∧ keyOf kind = key
  nodup : ∀ key, (shelf key).Nodup
  apart : ∀ {agent token key}, holder agent = some token → token ∉ shelf key
  accounted : ∀ {token}, label token ≠ none →
    (∃ agent, holder agent = some token) ∨ ∃ key, token ∈ shelf key
  bounded : ∀ key, (shelf key).length ≤ limit

namespace Custody

variable {keyOf : Label → Key} {limit : Nat} {label : Token → Option Label}
  {holder : Agent → Option Token} {wanted : Agent → Option Label} {shelf : Key → List Token}

/-- Nothing exists. -/
theorem empty (keyOf : Label → Key) (limit : Nat) (wanted : Agent → Option Label) :
    Custody keyOf limit (fun _ : Token => none) (fun _ => none) wanted fun _ => [] := by
  constructor <;> simp

/-- A token is in exactly one place. -/
theorem exactly_one [BEq Token] [LawfulBEq Token]
    (custody : Custody keyOf limit label holder wanted shelf) {token : Token}
    (existing : label token ≠ none) :
    (∃! agent, holder agent = some token) ∧ (∀ key, token ∉ shelf key) ∨
      (∀ agent, holder agent ≠ some token) ∧
        ∃ key, (shelf key).count token = 1 ∧ ∀ other, token ∈ shelf other → other = key := by
  rcases custody.accounted existing with ⟨agent, holds⟩ | ⟨key, member⟩
  · exact Or.inl ⟨⟨agent, holds, fun other also => custody.alone also holds⟩,
      fun key => custody.apart holds⟩
  · refine Or.inr ⟨fun agent holds => custody.apart holds member, key,
      List.count_eq_one_of_mem (custody.nodup key) member, ?_⟩
    intro other also
    obtain ⟨kind, label_eq, rfl⟩ := custody.shelved member
    obtain ⟨same, same_eq, rfl⟩ := custody.shelved also
    obtain rfl := Option.some.inj (label_eq.symm.trans same_eq)
    rfl

variable [DecidableEq Agent]

/-- An agent with empty hands changes what it wants. -/
theorem want (custody : Custody keyOf limit label holder wanted shelf) {agent : Agent}
    (idle : holder agent = none) (kind : Option Label) :
    Custody keyOf limit label holder (Function.update wanted agent kind) shelf where
  held := by
    intro other token holds
    have ne : other ≠ agent := by
      rintro rfl
      simp [idle] at holds
    rw [Function.update_of_ne ne]
    exact custody.held holds
  alone := custody.alone
  shelved := custody.shelved
  nodup := custody.nodup
  apart := custody.apart
  accounted := custody.accounted
  bounded := custody.bounded

/-- A token that nobody holds comes into the hands of an agent; it lies on no shelf any more. -/
theorem grasp (custody : Custody keyOf limit label holder wanted shelf) {agent : Agent}
    {kind : Label} {token : Token} {after : Token → Option Label} {left : Key → List Token}
    (idle : holder agent = none) (wants : wanted agent = some kind)
    (unheld : ∀ other, holder other ≠ some token) (labelled : after token = some kind)
    (others : ∀ other, other ≠ token → after other = label other)
    (left_iff : ∀ key other, other ∈ left key ↔ other ∈ shelf key ∧ other ≠ token)
    (nodup : ∀ key, (left key).Nodup) (bounded : ∀ key, (left key).length ≤ limit) :
    Custody keyOf limit after (Function.update holder agent (some token)) wanted left := by
  have holds_iff : ∀ other item, Function.update holder agent (some token) other = some item ↔
      other = agent ∧ item = token ∨ holder other = some item := by
    intro other item
    by_cases same : other = agent
    · subst same
      simp [idle, eq_comm]
    · simp [same]
  refine ⟨?_, ?_, ?_, nodup, ?_, ?_, bounded⟩
  · intro other item holds
    rcases (holds_iff other item).mp holds with ⟨rfl, rfl⟩ | holds
    · exact ⟨kind, wants, labelled⟩
    · rw [others item fun same => unheld other (same ▸ holds)]
      exact custody.held holds
  · intro first second item first_holds second_holds
    rcases (holds_iff first item).mp first_holds with ⟨rfl, rfl⟩ | first_holds
    · rcases (holds_iff second item).mp second_holds with ⟨rfl, -⟩ | second_holds
      · rfl
      · exact absurd second_holds (unheld second)
    · rcases (holds_iff second item).mp second_holds with ⟨-, same⟩ | second_holds
      · exact absurd (same ▸ first_holds) (unheld first)
      · exact custody.alone first_holds second_holds
  · intro key item member
    obtain ⟨member, ne⟩ := (left_iff key item).mp member
    rw [others item ne]
    exact custody.shelved member
  · intro other item key holds member
    obtain ⟨member, ne⟩ := (left_iff key item).mp member
    rcases (holds_iff other item).mp holds with ⟨-, rfl⟩ | holds
    · exact ne rfl
    · exact custody.apart holds member
  · intro item existing
    by_cases same : item = token
    · subst same
      exact Or.inl ⟨agent, Function.update_self _ _ _⟩
    rw [others item same] at existing
    rcases custody.accounted existing with ⟨owner, holds⟩ | ⟨key, member⟩
    · exact Or.inl ⟨owner, (holds_iff owner item).mpr (Or.inr holds)⟩
    · exact Or.inr ⟨key, (left_iff key item).mpr ⟨member, same⟩⟩

/-- An agent lets go of its token, which disappears or lies on its shelf from now on. -/
theorem drop (custody : Custody keyOf limit label holder wanted shelf) {agent : Agent}
    (kind : Label) {token : Token} {after : Token → Option Label} {left : Key → List Token}
    (holds : holder agent = some token)
    (others : ∀ other, other ≠ token → after other = label other)
    (fate : after token = none ∨ after token = some kind)
    (left_iff : ∀ key other, other ∈ left key ↔
      other ∈ shelf key ∨ other = token ∧ after token = some kind ∧ key = keyOf kind)
    (nodup : ∀ key, (left key).Nodup) (bounded : ∀ key, (left key).length ≤ limit) :
    Custody keyOf limit after (Function.update holder agent none) wanted left := by
  have holds_iff : ∀ other item, Function.update holder agent none other = some item ↔
      other ≠ agent ∧ holder other = some item := by
    intro other item
    by_cases same : other = agent <;> simp [same]
  have ne_token : ∀ {other item}, other ≠ agent → holder other = some item → item ≠ token := by
    rintro other item other_ne other_holds rfl
    exact other_ne (custody.alone other_holds holds)
  have shelf_ne : ∀ {key item}, item ∈ shelf key → item ≠ token := by
    rintro key item member rfl
    exact custody.apart holds member
  refine ⟨?_, ?_, ?_, nodup, ?_, ?_, bounded⟩
  · intro other item other_holds
    obtain ⟨other_ne, other_holds⟩ := (holds_iff other item).mp other_holds
    rw [others item (ne_token other_ne other_holds)]
    exact custody.held other_holds
  · intro first second item first_holds second_holds
    exact custody.alone ((holds_iff first item).mp first_holds).2
      ((holds_iff second item).mp second_holds).2
  · intro key item member
    rcases (left_iff key item).mp member with member | ⟨rfl, labelled, rfl⟩
    · rw [others item (shelf_ne member)]
      exact custody.shelved member
    · exact ⟨kind, labelled, rfl⟩
  · intro other item key other_holds member
    obtain ⟨other_ne, other_holds⟩ := (holds_iff other item).mp other_holds
    rcases (left_iff key item).mp member with member | ⟨rfl, -, -⟩
    · exact custody.apart other_holds member
    · exact ne_token other_ne other_holds rfl
  · intro item existing
    by_cases same : item = token
    · subst same
      rcases fate with gone | labelled
      · exact absurd gone existing
      · exact Or.inr ⟨keyOf kind, (left_iff _ _).mpr (Or.inr ⟨rfl, labelled, rfl⟩)⟩
    rw [others item same] at existing
    rcases custody.accounted existing with ⟨owner, owner_holds⟩ | ⟨key, member⟩
    · refine Or.inl ⟨owner, (holds_iff owner item).mpr ⟨?_, owner_holds⟩⟩
      rintro rfl
      exact same (Option.some.inj (owner_holds.symm.trans holds))
    · exact Or.inr ⟨key, (left_iff key item).mpr (Or.inl member)⟩

/-- An agent with empty hands takes the last token of the shelf of what it wants. -/
theorem take (custody : Custody keyOf limit label holder wanted shelf)
    (injective : Function.Injective keyOf) {agent : Agent} {kind : Label} {token : Token}
    {left : Key → List Token} (idle : holder agent = none) (wants : wanted agent = some kind)
    (last : (shelf (keyOf kind)).getLast? = some token)
    (own : left (keyOf kind) = (shelf (keyOf kind)).dropLast)
    (others : ∀ key, key ≠ keyOf kind → left key = shelf key) :
    Custody keyOf limit label (Function.update holder agent (some token)) wanted left := by
  have shelf_eq : left (keyOf kind) ++ [token] = shelf (keyOf kind) := by
    rw [own]
    exact List.dropLast_append_getLast? token last
  have member : token ∈ shelf (keyOf kind) := List.mem_of_getLast? last
  have nodup := custody.nodup (keyOf kind)
  have bounded := custody.bounded (keyOf kind)
  rw [← shelf_eq] at nodup bounded
  obtain ⟨same_kind, labelled, key_eq⟩ := custody.shelved member
  obtain rfl := injective key_eq
  refine custody.grasp idle wants (fun other holds => custody.apart holds member) labelled
    (fun _ _ => rfl) ?_ ?_ ?_
  · intro key other
    by_cases same : key = keyOf same_kind
    · subst same
      rw [← shelf_eq, List.mem_append, List.mem_singleton]
      have absent : token ∉ left (keyOf same_kind) := by
        have reversed : (token :: left (keyOf same_kind)).Nodup := List.nodup_append_comm.mp nodup
        exact (List.nodup_cons.mp reversed).1
      constructor
      · intro other_member
        exact ⟨Or.inl other_member, fun clash => absent (clash ▸ other_member)⟩
      · rintro ⟨other_member | clash, ne⟩
        · exact other_member
        · exact absurd clash ne
    · rw [others key same, iff_self_and]
      rintro other_member rfl
      obtain ⟨other_kind, other_eq, rfl⟩ := custody.shelved other_member
      exact same (congrArg keyOf (Option.some.inj (other_eq.symm.trans labelled)))
  · intro key
    by_cases same : key = keyOf same_kind
    · subst same
      exact nodup.of_append_left
    · exact others key same ▸ custody.nodup key
  · intro key
    by_cases same : key = keyOf same_kind
    · subst same
      rw [List.length_append] at bounded
      omega
    · exact others key same ▸ custody.bounded key

/-- An agent with empty hands mints a token of the kind it wants. -/
theorem mint [DecidableEq Token] (custody : Custody keyOf limit label holder wanted shelf)
    {agent : Agent} {kind : Label} {token : Token} (idle : holder agent = none)
    (wants : wanted agent = some kind) (fresh : label token = none) :
    Custody keyOf limit (Function.update label token (some kind))
      (Function.update holder agent (some token)) wanted shelf := by
  refine custody.grasp idle wants ?_ (Function.update_self _ _ _)
    (fun other ne => Function.update_of_ne ne _ _) ?_ custody.nodup custody.bounded
  · intro other holds
    obtain ⟨_, -, labelled⟩ := custody.held holds
    simp [fresh] at labelled
  · intro key other
    rw [iff_self_and]
    rintro member rfl
    obtain ⟨_, labelled, -⟩ := custody.shelved member
    simp [fresh] at labelled

/-- An agent burns its token. -/
theorem burn [DecidableEq Token] (custody : Custody keyOf limit label holder wanted shelf)
    {agent : Agent} {token : Token} (holds : holder agent = some token) :
    Custody keyOf limit (Function.update label token none) (Function.update holder agent none)
      wanted shelf := by
  obtain ⟨kind, -, -⟩ := custody.held holds
  exact custody.drop kind holds (fun other ne => Function.update_of_ne ne _ _)
    (Or.inl (Function.update_self _ _ _)) (by simp) custody.nodup custody.bounded

/-- An agent hands its token over to an agent with empty hands, which takes over what it wants. -/
theorem pass [DecidableEq Token] (custody : Custody keyOf limit label holder wanted shelf)
    {giver taker : Agent} {kind : Label} {token : Token} (holds : holder giver = some token)
    (wants : wanted giver = some kind) (idle : holder taker = none) :
    Custody keyOf limit label
      (Function.update (Function.update holder giver none) taker (some token))
      (Function.update wanted taker (some kind)) shelf := by
  obtain ⟨same_kind, same_wants, labelled⟩ := custody.held holds
  obtain rfl := Option.some.inj (wants.symm.trans same_wants)
  have still_idle : Function.update holder giver none taker = none := by
    by_cases same : taker = giver
    · rw [same, Function.update_self]
    · rw [Function.update_of_ne same, idle]
  have minted := ((custody.burn holds).want still_idle (some kind)).mint still_idle
    (Function.update_self _ _ _) (Function.update_self _ _ _)
  have restored : Function.update label token (some kind) = label := by
    rw [← labelled, Function.update_eq_self]
  rw [Function.update_idem, restored] at minted
  exact minted

/-- An agent puts its token on its shelf, where there is room for it. -/
theorem file (custody : Custody keyOf limit label holder wanted shelf) {agent : Agent}
    {kind : Label} {token : Token} {left : Key → List Token} (holds : holder agent = some token)
    (wants : wanted agent = some kind) (room : (shelf (keyOf kind)).length < limit)
    (own : left (keyOf kind) = shelf (keyOf kind) ++ [token])
    (others : ∀ key, key ≠ keyOf kind → left key = shelf key) :
    Custody keyOf limit label (Function.update holder agent none) wanted left := by
  obtain ⟨same_kind, same_wants, labelled⟩ := custody.held holds
  obtain rfl := Option.some.inj (wants.symm.trans same_wants)
  apply custody.drop kind holds (fun _ _ => rfl) (Or.inr labelled)
  · intro key other
    by_cases same : key = keyOf kind
    · subst same
      simp [own, labelled]
    · simp [others key same, same]
  · intro key
    by_cases same : key = keyOf kind
    · subst same
      rw [own, List.nodup_append_comm]
      simpa using ⟨custody.apart holds, custody.nodup (keyOf kind)⟩
    · exact others key same ▸ custody.nodup key
  · intro key
    by_cases same : key = keyOf kind
    · subst same
      rw [own, List.length_append, List.length_singleton]
      exact room
    · exact others key same ▸ custody.bounded key

end Custody

end Custody
