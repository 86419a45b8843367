import ChainExplorer.Proofs.Timer.Index
import ChainExplorer.View.Basic

set_option autoImplicit false

namespace ChainExplorer

open Json (Value)

-- What is expected of a member.
inductive Expectation where
  | text
  | list
  | time
  | size
deriving DecidableEq

namespace Expectation

-- An integer that fits 64 bits with a sign.
def IsSeconds (value : Value) : Prop :=
  ∃ seconds : Int, seconds < Number.signedLimit ∧ value = .number (.integer seconds)

-- The types of value that can be shown.
def Accepts : Expectation → Value → Prop
  | .text, value => (∃ text, value = .string text) ∨ (∃ number, value = .number number) ∨ ∃ flag, value = .bool flag
  | .list, value => ∃ items, value = .array items
  | .time, value => IsSeconds value ∨ ∃ given, value.member? "value" = some given ∧ IsSeconds given
  | .size, value => ∃ bytes : Nat, value = .number (.integer bytes)

theorem signed_seconds (value : Value) (seconds : Int) (signed : value.signed? = some seconds) : IsSeconds value := by
  unfold Value.signed? at signed
  split at signed
  · split at signed
    · exact ⟨_, ‹_›, rfl⟩
    · cases signed
  · cases signed

theorem text_accepted (value : Value) : text.Accepts value ↔ ∃ shown, Payload.scalar? value = some shown := by
  cases value with
  | bool flag => cases flag <;> simp [Accepts, Payload.scalar?]
  | _ => simp [Accepts, Payload.scalar?]

theorem list_accepted (value : Value) : list.Accepts value ↔ ∃ items, value.items? = some items := by
  cases value <;> simp [Accepts, Value.items?]

theorem time_accepted (value : Value) (shown : String) (timed : Payload.time? value = some shown) :
    time.Accepts value := by
  unfold Payload.time? at timed
  split at timed
  · rename_i seconds signed
    exact .inl (signed_seconds value seconds signed)
  · obtain ⟨seconds, found, _⟩ := Option.bind_eq_some_iff.mp timed
    obtain ⟨given, member, signed⟩ := Option.bind_eq_some_iff.mp found
    exact .inr ⟨given, member, signed_seconds given seconds signed⟩

theorem size_accepted (value : Value) (shown : String) (sized : Payload.size? value = some shown) :
    size.Accepts value := by
  obtain ⟨bytes, unsigned, _⟩ := Option.map_eq_some_iff.mp sized
  unfold Value.unsigned? at unsigned
  split at unsigned
  · rename_i number
    split at unsigned
    · exact ⟨number.toNat, by rw [Int.toNat_of_nonneg ‹_›]⟩
    · cases unsigned
  · cases unsigned

theorem null_refused (expectation : Expectation) : ¬ expectation.Accepts .null := by
  cases expectation <;> simp [Accepts, IsSeconds, Value.member?]

end Expectation

-- The members of which something is shown.
def Aspect.expected : Aspect → List (String × Expectation)
  | .block =>
      [("hash", .text), ("height", .text), ("previousBlockHash", .text), ("merkleRoot", .text), ("timestamp", .time),
        ("difficulty", .text), ("nonce", .text), ("byteCount", .size), ("transactions", .list)]
  | .address =>
      [("base58CheckEncoded", .text), ("base32CheckEncoded", .text), ("address", .text), ("balance", .text),
        ("transactions", .list)]
  | .transaction =>
      [("hash", .text), ("blocks", .list), ("byteCount", .size), ("fee", .text), ("inputs", .list), ("outputs", .list)]

-- A member is expected, and of a type that can be shown.
def Aspect.Admits (aspect : Aspect) (name : String) (value : Value) : Prop :=
  ∃ expectation, aspect.expected.lookup name = some expectation ∧ expectation.Accepts value

namespace Payload

def without (names : List String) (members : List (String × Value)) : Value :=
  .object (members.filter fun member => !names.contains member.1)

-- None of the members with these names can be shown.
def Unusable (aspect : Aspect) (names : List String) (members : List (String × Value)) : Prop :=
  ∀ name ∈ names, ∀ value, (Value.object members).member? name = some value → ¬ aspect.Admits name value

-- The names under which an address is looked for, in this order.
def addressNames : List String := ["base58CheckEncoded", "base32CheckEncoded", "address"]

-- The first of these members that is there.
def leading? (object : Value) : Option (String × Value) :=
  addressNames.findSome? fun name => (object.member? name).map fun value => (name, value)

-- The first of the addresses is one of these members, and the first of the others can be shown.
def HidesAddress (names : List String) (members : List (String × Value)) : Prop :=
  (∃ name ∈ names, ∃ value, leading? (.object members) = some (name, value)) ∧
    ∃ name value, leading? (without names members) = some (name, value) ∧ Expectation.text.Accepts value

theorem without_member (names : List String) (members : List (String × Value)) (name : String) :
    (without names members).member? name = if name ∈ names then none else (Value.object members).member? name := by
  refine (lookup_filter (fun name => !names.contains name) members name).trans ?_
  by_cases removed : name ∈ names
  · simp [removed]
  · simp [removed, Value.member?]

theorem address_leads (object : Value) : address? object = (leading? object).map Prod.snd := by
  simp only [address?, leading?, addressNames, List.findSome?]
  cases object.member? "base58CheckEncoded" with
  | some address => rfl
  | none =>
      cases object.member? "base32CheckEncoded" with
      | some address => rfl
      | none => cases object.member? "address" <;> rfl

theorem leading_member (object : Value) (name : String) (value : Value) (leads : leading? object = some (name, value)) :
    name ∈ addressNames ∧ object.member? name = some value := by
  obtain ⟨asked, listed, found⟩ := List.exists_of_findSome?_eq_some leads
  obtain ⟨member, present, same⟩ := Option.map_eq_some_iff.mp found
  cases same
  exact ⟨listed, present⟩

section

variable (aspect : Aspect) (names : List String) (members : List (String × Value))
  (unusable : Unusable aspect names members)

include unusable

-- Nothing is read from a member that cannot be shown, no more than from one that is not there.
theorem reads_alike {α : Type} (expectation : Expectation) (read : Value → Option α)
    (accepts : ∀ value shown, read value = some shown → expectation.Accepts value) (name : String)
    (expected : aspect.expected.lookup name = some expectation) :
    ((without names members).member? name).bind read = ((Value.object members).member? name).bind read := by
  rw [without_member]
  by_cases removed : name ∈ names
  · rw [if_pos removed]
    cases found : (Value.object members).member? name with
    | none => rfl
    | some value =>
        have refused := unusable name removed value found
        have unread : read value = none := by
          refine Option.eq_none_iff_forall_ne_some.mpr ?_
          intro shown reads
          exact refused ⟨expectation, expected, accepts value shown reads⟩
        exact unread.symm
  · rw [if_neg removed]

theorem text_alike (name : String) (expected : aspect.expected.lookup name = some .text) :
    ((without names members).member? name).bind scalar? = ((Value.object members).member? name).bind scalar? :=
  reads_alike aspect names members unusable .text scalar?
    (fun value shown reads => (Expectation.text_accepted value).mpr ⟨shown, reads⟩) name expected

theorem list_alike (name : String) (expected : aspect.expected.lookup name = some .list) :
    ((without names members).member? name).bind Value.items? =
      ((Value.object members).member? name).bind Value.items? :=
  reads_alike aspect names members unusable .list Value.items?
    (fun value items reads => (Expectation.list_accepted value).mpr ⟨items, reads⟩) name expected

theorem time_alike (name : String) (expected : aspect.expected.lookup name = some .time) :
    ((without names members).member? name).bind time? = ((Value.object members).member? name).bind time? :=
  reads_alike aspect names members unusable .time time? Expectation.time_accepted name expected

theorem size_alike (name : String) (expected : aspect.expected.lookup name = some .size) :
    ((without names members).member? name).bind size? = ((Value.object members).member? name).bind size? :=
  reads_alike aspect names members unusable .size size? Expectation.size_accepted name expected

end

theorem block_alike (names : List String) (members : List (String × Value))
    (unusable : Unusable .block names members) :
    blockFields (without names members) = blockFields (.object members) := by
  have text := text_alike .block names members unusable
  have time := time_alike .block names members unusable "timestamp" rfl
  have size := size_alike .block names members unusable "byteCount" rfl
  have list := list_alike .block names members unusable "transactions" rfl
  unfold blockFields scalarField timeField sizeField transactionFields
  rw [text "hash" rfl, text "height" rfl, text "previousBlockHash" rfl, text "merkleRoot" rfl, time,
    text "difficulty" rfl, text "nonce" rfl, size, list]

theorem transaction_alike (names : List String) (members : List (String × Value))
    (unusable : Unusable .transaction names members) :
    transactionObjectFields (without names members) = transactionObjectFields (.object members) := by
  have text := text_alike .transaction names members unusable
  have size := size_alike .transaction names members unusable "byteCount" rfl
  have list := list_alike .transaction names members unusable
  unfold transactionObjectFields elements sizeField
  rw [size, list "blocks" rfl, list "inputs" rfl, list "outputs" rfl]
  unfold scalarField
  rw [text "hash" rfl, text "fee" rfl]

-- The text of the address is all that can differ.
theorem address_fields_alike (names : List String) (members : List (String × Value))
    (unusable : Unusable .address names members) :
    addressFields (without names members) = addressFields (.object members) ↔
      (address? (without names members)).bind scalar? = (address? (.object members)).bind scalar? := by
  have balance := text_alike .address names members unusable "balance" rfl
  have list := list_alike .address names members unusable "transactions" rfl
  unfold addressFields scalarField transactionFields
  rw [balance, list, List.append_left_inj, List.append_left_inj]
  constructor
  · intro rows
    cases first : (address? (without names members)).bind scalar? <;>
      cases second : (address? (.object members)).bind scalar? <;> simp_all
  · intro same
    rw [same]

-- An address that cannot be shown leads nowhere.
theorem leading_unusable (names : List String) (members : List (String × Value))
    (unusable : Unusable .address names members) (name : String) (value : Value) (removed : name ∈ names)
    (leads : leading? (.object members) = some (name, value)) : (address? (.object members)).bind scalar? = none := by
  obtain ⟨listed, found⟩ := leading_member _ name value leads
  have expected : (Aspect.expected .address).lookup name = some .text := by
    have texts : ∀ asked ∈ addressNames, (Aspect.expected .address).lookup asked = some .text := by decide
    exact texts name listed
  rw [address_leads, leads]
  cases shown : scalar? value with
  | none => exact shown
  | some text =>
      have accepted := (Expectation.text_accepted value).mpr ⟨text, shown⟩
      exact absurd ⟨.text, expected, accepted⟩ (unusable name removed value found)

theorem leading_kept (names : List String) (members : List (String × Value))
    (kept : ∀ name ∈ names, ∀ value, leading? (.object members) ≠ some (name, value)) :
    leading? (without names members) = leading? (.object members) := by
  have fewer (name : String) (absent : (Value.object members).member? name = none) :
      (without names members).member? name = none := by
    rw [without_member, absent, ite_self]
  cases leads : leading? (.object members) with
  | none =>
      have absent := List.findSome?_eq_none_iff.mp leads
      refine List.findSome?_eq_none_iff.mpr ?_
      intro name listed
      rw [fewer name (Option.map_eq_none_iff.mp (absent name listed))]
      rfl
  | some first =>
      obtain ⟨name, value⟩ := first
      obtain ⟨before, asked, after, order, found, absent⟩ := List.findSome?_eq_some_iff.mp leads
      have here := Option.map_eq_some_iff.mp found
      obtain ⟨_, present, same⟩ := here
      cases same
      refine List.findSome?_eq_some_iff.mpr ⟨before, name, after, order, ?_, ?_⟩
      · have stays : name ∉ names := fun removed => kept name removed value leads
        rw [without_member, if_neg stays, present]
        rfl
      · intro earlier member
        rw [fewer earlier (Option.map_eq_none_iff.mp (absent earlier member))]
        rfl

theorem address_text_alike (names : List String) (members : List (String × Value))
    (unusable : Unusable .address names members) :
    (address? (without names members)).bind scalar? = (address? (.object members)).bind scalar? ↔
      ¬ HidesAddress names members := by
  constructor
  · intro same hides
    obtain ⟨⟨name, removed, value, leads⟩, other, shown, follows, accepted⟩ := hides
    obtain ⟨text, reads⟩ := (Expectation.text_accepted shown).mp accepted
    rw [leading_unusable names members unusable name value removed leads, address_leads, follows] at same
    exact Option.some_ne_none text (reads.symm.trans same)
  · intro visible
    by_cases shadowed : ∃ name ∈ names, ∃ value, leading? (.object members) = some (name, value)
    · obtain ⟨name, removed, value, leads⟩ := shadowed
      rw [leading_unusable names members unusable name value removed leads, address_leads]
      cases follows : leading? (without names members) with
      | none => rfl
      | some second =>
          obtain ⟨other, shown⟩ := second
          refine Option.eq_none_iff_forall_ne_some.mpr ?_
          intro text reads
          have accepted := (Expectation.text_accepted shown).mpr ⟨text, reads⟩
          exact visible ⟨⟨name, removed, value, leads⟩, other, shown, follows, accepted⟩
    · have kept : ∀ name ∈ names, ∀ value, leading? (.object members) ≠ some (name, value) := by
        intro name removed value leads
        exact shadowed ⟨name, removed, value, leads⟩
      rw [address_leads, address_leads, leading_kept names members kept]

end Payload

namespace View

open Payload (HidesAddress Unusable without)

-- The same is on display, with the same history.
def Agrees (first second : View) : Prop :=
  first.results.containers.map (fun container => (container.title, container.fields)) =
      second.results.containers.map (fun container => (container.title, container.fields)) ∧
    first.history = second.history

theorem render_agrees (view : View) (aspect : Aspect) (first second : Value)
    (fields : aspect.fields first = aspect.fields second) (key : aspect.key? first = aspect.key? second) :
    (view.render ⟨aspect, first⟩).Agrees (view.render ⟨aspect, second⟩) := by
  unfold render present
  dsimp only
  rw [fields, key]
  exact ⟨rfl, rfl⟩

theorem agreed_fields (view : View) (aspect : Aspect) (first second : Value)
    (agrees : (view.render ⟨aspect, first⟩).Agrees (view.render ⟨aspect, second⟩)) :
    aspect.fields first = aspect.fields second := by
  have shown : [(aspect.title, aspect.fields first)] = [(aspect.title, aspect.fields second)] := agrees.1
  exact congrArg Prod.snd (List.singleton_inj.mp shown)

-- The test of the address is exact: what is missing elsewhere makes no difference, and a hidden address does.
theorem unusable_members_count_as_missing (aspect : Aspect) (names : List String) (members : List (String × Value))
    (view : View) (unusable : Unusable aspect names members) :
    (view.render ⟨aspect, without names members⟩).Agrees (view.render ⟨aspect, .object members⟩) ↔
      ¬ (aspect = .address ∧ HidesAddress names members) := by
  cases aspect with
  | block =>
      have hash := Payload.text_alike .block names members unusable "hash" rfl
      have fields := Payload.block_alike names members unusable
      refine iff_of_true (view.render_agrees .block _ _ fields ?_) (fun hides => by cases hides.1)
      unfold Aspect.key?
      dsimp only
      rw [hash]
  | transaction =>
      have hash := Payload.text_alike .transaction names members unusable "hash" rfl
      have fields := Payload.transaction_alike names members unusable
      refine iff_of_true (view.render_agrees .transaction _ _ fields ?_) (fun hides => by cases hides.1)
      unfold Aspect.key?
      dsimp only
      rw [hash]
  | address =>
      have text := Payload.address_text_alike names members unusable
      have fields := Payload.address_fields_alike names members unusable
      constructor
      · intro agrees hides
        exact text.mp (fields.mp (agreed_fields view .address _ _ agrees)) hides.2
      · intro visible
        have same := text.mpr fun hides => visible ⟨rfl, hides⟩
        refine view.render_agrees .address _ _ (fields.mpr same) ?_
        unfold Aspect.key?
        dsimp only
        rw [same]

-- One of the addresses and the balance cannot be shown, but the address that comes first can.
def damaged : List (String × Value) :=
  [("address", .array []), ("balance", .null), ("base58CheckEncoded", .string "1abc")]

theorem damaged_shows_its_address :
    Unusable .address ["address", "balance"] damaged ∧
      (View.empty.render ⟨.address, without ["address", "balance"] damaged⟩).Agrees
        (View.empty.render ⟨.address, .object damaged⟩) ∧
      (View.empty.render ⟨.address, .object damaged⟩).history.current = some "1abc" := by
  have unusable : Unusable .address ["address", "balance"] damaged := by
    intro name removed value found admitted
    obtain ⟨expectation, expected, accepts⟩ := admitted
    rcases List.mem_pair.mp removed with rfl | rfl
    · cases found
      cases expected
      simp [Expectation.Accepts] at accepts
    · cases found
      exact expectation.null_refused accepts
  refine ⟨unusable, ?_, by decide +kernel⟩
  refine (unusable_members_count_as_missing .address ["address", "balance"] damaged .empty unusable).mpr ?_
  rintro ⟨_, ⟨name, removed, value, leads⟩, _⟩
  have first : Payload.leading? (.object damaged) = some ("base58CheckEncoded", .string "1abc") := rfl
  rw [first] at leads
  cases leads
  exact absurd removed (by decide)

theorem refused_address_hides_another :
    ¬ ∀ (aspect : Aspect) (members : List (String × Value)) (name : String) (value : Value) (view : View),
      members.lookup name = some value → ¬ aspect.Admits name value →
        (view.render ⟨aspect, without [name] members⟩).Agrees (view.render ⟨aspect, .object members⟩) := by
  intro claim
  have refused : ¬ Aspect.address.Admits "base58CheckEncoded" .null := by
    rintro ⟨expectation, _, accepts⟩
    exact expectation.null_refused accepts
  have agrees := claim .address [("address", .string "1abc"), ("base58CheckEncoded", .null)] "base58CheckEncoded" .null
    .empty rfl refused
  exact absurd agrees.2 (by decide +kernel)

end View
end ChainExplorer
