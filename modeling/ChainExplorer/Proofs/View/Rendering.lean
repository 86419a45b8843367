import ChainExplorer.Proofs.Explorer.Targets

set_option autoImplicit false

namespace ChainExplorer

open Json (Value)
open Explorer (Action act along makes receive start)
open Search (Completion)

namespace Json.Value

-- A string is shown as it is, a number and a truth value as their JSON text.
inductive ReadsAs : Value → String → Prop where
  | string (text : String) : ReadsAs (.string text) text
  | number (value : Number) : ReadsAs (.number value) (Value.number value).text
  | bool (value : Bool) : ReadsAs (.bool value) (Value.bool value).text

def MemberReads (name : String) (value : Value) (text : String) : Prop :=
  ∃ member, value.member? name = some member ∧ member.ReadsAs text

-- A transaction is listed by its hash, as the element itself or as a member of it.
def TransactionReads (transaction : Value) (text : String) : Prop :=
  transaction.MemberReads "hash" text ∨ transaction.ReadsAs text

-- Of an output there are the address and the amount, or one of them.
def OutputReads (output : Value) (text : String) : Prop :=
  (∃ address amount, output.MemberReads "address" address ∧ output.MemberReads "amount" amount ∧
      text = address ++ " (" ++ amount ++ ")") ∨
    (output.MemberReads "address" text ∧ ∀ amount, ¬ output.MemberReads "amount" amount) ∨
      (output.MemberReads "amount" text ∧ ∀ address, ¬ output.MemberReads "address" address)

-- The elements of the list that is a member; a member that is no list has none.
def Lists (object : Value) (name : String) (items : List Value) : Prop :=
  object.member? name = some (.array items) ∨
    items = [] ∧ ∀ listed, object.member? name ≠ some (.array listed)

end Json.Value

-- In the order of the elements, a text for each that can be read and nothing for the others.
inductive Listed (Reads : Value → String → Prop) : List Value → List String → Prop where
  | nil : Listed Reads [] []
  | shown (item : Value) (items : List Value) (text : String) (texts : List String) (reads : Reads item text)
      (rest : Listed Reads items texts) : Listed Reads (item :: items) (text :: texts)
  | passed (item : Value) (items : List Value) (texts : List String) (unread : ∀ text, ¬ Reads item text)
      (rest : Listed Reads items texts) : Listed Reads (item :: items) texts

theorem filter_map_listed (Reads : Value → String → Prop) (read : Value → Option String)
    (reads : ∀ item text, read item = some text ↔ Reads item text) (items : List Value) :
    Listed Reads items (items.filterMap read) := by
  induction items with
  | nil => exact .nil
  | cons item rest ih =>
      cases found : read item with
      | none =>
          rw [List.filterMap_cons_none found]
          refine .passed item rest _ ?_ ih
          intro text readable
          rw [(reads item text).mpr readable] at found
          cases found
      | some text =>
          rw [List.filterMap_cons_some found]
          exact .shown item rest text _ ((reads item text).mp found) ih

-- Rows that stand for the elements of a list.
structure Listing where
  label : String
  kind : FieldKind
  source : String
  Reads : Value → String → Prop

def labelled (label : String) (fields : List Field) : List Field := fields.filter fun field => field.label = label

theorem labelled_absent (groups : List Rows) (label : String) (absent : label ∉ groups.map Rows.label) :
    labelled label (groups.flatMap Rows.fields) = [] := by
  refine List.filter_eq_nil_iff.mpr ?_
  intro field member
  obtain ⟨rows, group, row⟩ := List.mem_flatMap.mp member
  obtain ⟨text, _, rfl⟩ := List.mem_map.mp row
  have other : rows.label ≠ label := fun same => absent (same ▸ List.mem_map_of_mem group)
  simpa using other

theorem labelled_group (groups : List Rows) (distinct : (groups.map Rows.label).Nodup) (rows : Rows)
    (group : rows ∈ groups) : labelled rows.label (groups.flatMap Rows.fields) = rows.fields := by
  induction groups with
  | nil => cases group
  | cons first rest ih =>
      obtain ⟨apart, later⟩ := List.nodup_cons.mp distinct
      rw [List.flatMap_cons, labelled, List.filter_append]
      rcases List.mem_cons.mp group with rfl | behind
      · have own : rows.fields.filter (fun field => field.label = rows.label) = rows.fields := by
          refine List.filter_eq_self.mpr ?_
          intro field member
          obtain ⟨text, _, rfl⟩ := List.mem_map.mp member
          simp
        have none := labelled_absent rest rows.label apart
        rw [labelled] at none
        rw [own, none, List.append_nil]
      · have other : rows.label ∉ [first].map Rows.label := by
          intro same
          rw [List.map_singleton, List.mem_singleton] at same
          exact apart (same ▸ List.mem_map_of_mem behind)
        have none := labelled_absent [first] rows.label other
        rw [List.flatMap_singleton, labelled] at none
        rw [none, List.nil_append]
        exact ih later behind

namespace Payload

open Json.Value (MemberReads OutputReads ReadsAs TransactionReads)

theorem scalar_reads (value : Value) (text : String) : scalar? value = some text ↔ value.ReadsAs text := by
  constructor
  · intro found
    cases value with
    | string shown =>
        cases found
        exact .string _
    | number number =>
        cases found
        exact .number _
    | bool flag => cases flag <;> cases found <;> exact .bool _
    | _ => cases found
  · intro reads
    cases reads with
    | string => rfl
    | number => rfl
    | bool flag => cases flag <;> rfl

theorem member_reads (name : String) (value : Value) (text : String) :
    (value.member? name).bind scalar? = some text ↔ value.MemberReads name text := by
  rw [Option.bind_eq_some_iff]
  simp only [scalar_reads]
  rfl

theorem transaction_reads (transaction : Value) (text : String) :
    scalar? ((transaction.member? "hash").getD transaction) = some text ↔ transaction.TransactionReads text := by
  rw [scalar_reads]
  cases hash : transaction.member? "hash" with
  | none => simp [TransactionReads, MemberReads, hash]
  | some member =>
      -- What has members is no scalar.
      have compound : ¬ transaction.ReadsAs text := by
        intro reads
        cases reads <;> cases hash
      simp [TransactionReads, MemberReads, hash, compound]

theorem output_reads (output : Value) (text : String) : output? output = some text ↔ output.OutputReads text := by
  unfold output? OutputReads
  simp only [← member_reads]
  cases (output.member? "address").bind scalar? <;> cases (output.member? "amount").bind scalar? <;> simp [eq_comm]

theorem elements_listed (object : Value) (name : String) : object.Lists name (elements (object.member? name)) := by
  unfold elements
  cases found : object.member? name with
  | none => exact .inr ⟨rfl, by simp [found]⟩
  | some value =>
      cases value with
      | array items => exact .inl found
      | _ => exact .inr ⟨rfl, by simp [found]⟩

end Payload

namespace Aspect

open Json.Value (MemberReads OutputReads ReadsAs TransactionReads)
open Payload (elements)

def mainLabel : Aspect → String
  | .block | .transaction => "Hash"
  | .address => "Address"

-- The main field is among the fields, with this text, which is not empty.
def ShowsKey (aspect : Aspect) (fields : List Field) (key : String) : Prop :=
  key ≠ "" ∧ ∃ field ∈ fields, field.label = aspect.mainLabel ∧ field.value = some key

def listings : Aspect → List Listing
  | .block | .address => [⟨"", .transactionHash, "transactions", TransactionReads⟩]
  | .transaction =>
      [⟨"Block", .blockHashes, "blocks", ReadsAs⟩,
        ⟨"Input", .transactionHash, "inputs", MemberReads "previousOutputTransactionHash"⟩,
        ⟨"Output", .plain, "outputs", OutputReads⟩]

theorem groups_distinct (aspect : Aspect) (object : Value) : ((aspect.groups object).map Rows.label).Nodup := by
  cases aspect <;> simp [groups]

theorem labelled_fields (aspect : Aspect) (object : Value) (rows : Rows) (group : rows ∈ aspect.groups object) :
    labelled rows.label (aspect.fields object) = rows.fields := by
  rw [fields_grouped]
  exact labelled_group _ (groups_distinct aspect object) rows group

theorem listing_shown (aspect : Aspect) (object : Value) (listing : Listing) (read : Value → Option String)
    (reads : ∀ item text, read item = some text ↔ listing.Reads item text)
    (group : ⟨listing.label, listing.kind, (elements (object.member? listing.source)).filterMap read⟩ ∈
      aspect.groups object) :
    ∃ items texts, object.Lists listing.source items ∧ Listed listing.Reads items texts ∧
      labelled listing.label (aspect.fields object) = Rows.fields ⟨listing.label, listing.kind, texts⟩ :=
  ⟨_, _, Payload.elements_listed object listing.source, filter_map_listed listing.Reads read reads _,
    labelled_fields aspect object _ group⟩

theorem listings_shown (aspect : Aspect) (object : Value) (listing : Listing) (listed : listing ∈ aspect.listings) :
    ∃ items texts, object.Lists listing.source items ∧ Listed listing.Reads items texts ∧
      labelled listing.label (aspect.fields object) = Rows.fields ⟨listing.label, listing.kind, texts⟩ := by
  cases aspect with
  | block =>
      rw [List.mem_singleton.mp listed]
      exact listing_shown .block object _ _ Payload.transaction_reads (by simp [groups])
  | address =>
      rw [List.mem_singleton.mp listed]
      exact listing_shown .address object _ _ Payload.transaction_reads (by simp [groups])
  | transaction =>
      simp only [listings, List.mem_cons, List.not_mem_nil, or_false] at listed
      rcases listed with rfl | rfl | rfl
      · exact listing_shown .transaction object _ _ Payload.scalar_reads (by simp [groups])
      · exact listing_shown .transaction object _ _ (Payload.member_reads "previousOutputTransactionHash")
          (by simp [groups])
      · exact listing_shown .transaction object _ _ Payload.output_reads (by simp [groups])

theorem main_shown (aspect : Aspect) (object : Value) :
    ∃ kind, labelled aspect.mainLabel (aspect.fields object) =
      Rows.fields ⟨aspect.mainLabel, kind, (aspect.main? object).toList⟩ := by
  cases aspect with
  | block => exact ⟨.hash, labelled_fields .block object ⟨"Hash", .hash, _⟩ (by simp [groups])⟩
  | address => exact ⟨.plain, labelled_fields .address object ⟨"Address", .plain, _⟩ (by simp [groups])⟩
  | transaction =>
      exact ⟨.transactionHash, labelled_fields .transaction object ⟨"Hash", .transactionHash, _⟩ (by simp [groups])⟩

theorem main_text (aspect : Aspect) (object : Value) (text : String) :
    (∃ field ∈ aspect.fields object, field.label = aspect.mainLabel ∧ field.value = some text) ↔
      aspect.main? object = some text := by
  obtain ⟨kind, rows⟩ := main_shown aspect object
  constructor
  · rintro ⟨field, member, main, value⟩
    have row : field ∈ labelled aspect.mainLabel (aspect.fields object) :=
      List.mem_filter.mpr ⟨member, decide_eq_true main⟩
    rw [rows] at row
    obtain ⟨shown, found, rfl⟩ := List.mem_map.mp row
    cases value
    exact Option.mem_toList.mp found
  · intro found
    have row : ({ label := aspect.mainLabel, kind, value := some text } : Field) ∈
        labelled aspect.mainLabel (aspect.fields object) := by
      rw [rows, found]
      exact List.mem_singleton_self _
    exact ⟨_, (List.mem_filter.mp row).1, rfl, rfl⟩

theorem count_shown (aspect : Aspect) (object : Value) (items : List Value) (counted : aspect ≠ .transaction)
    (list : object.member? "transactions" = some (.array items)) :
    labelled "Transactions" (aspect.fields object) =
      [{ label := "Transactions", kind := .plain, value := some (toString items.length) }] := by
  have group : ⟨"Transactions", .plain, [toString items.length]⟩ ∈ aspect.groups object := by
    cases aspect <;> simp_all [groups, Value.items?]
  exact labelled_fields aspect object _ group

theorem count_absent (aspect : Aspect) (object : Value)
    (uncounted : aspect = .transaction ∨ ∀ items, object.member? "transactions" ≠ some (.array items)) :
    labelled "Transactions" (aspect.fields object) = [] := by
  by_cases transaction : aspect = .transaction
  · subst transaction
    rw [fields_grouped]
    exact labelled_absent _ "Transactions" (by simp [groups])
  · have none : (object.member? "transactions").bind Value.items? = none := by
      refine Option.eq_none_iff_forall_ne_some.mpr ?_
      intro items found
      obtain ⟨value, member, listed⟩ := Option.bind_eq_some_iff.mp found
      cases value <;> cases listed
      exact uncounted.resolve_left transaction items member
    have group : ⟨"Transactions", .plain, []⟩ ∈ aspect.groups object := by
      cases aspect <;> simp_all [groups]
    exact labelled_fields aspect object _ group

-- What goes into the history is what the main field shows.
theorem key_shown (aspect : Aspect) (object : Value) (key : String) :
    aspect.key? object = some key ↔ aspect.ShowsKey (aspect.fields object) key := by
  have kept : aspect.key? object = (aspect.main? object).filter (!·.isEmpty) := by cases aspect <;> rfl
  rw [kept, Option.filter_eq_some_iff, ShowsKey, main_text, and_comm]
  simp

end Aspect

namespace View

theorem render_keyless (view : View) (rendering : Rendering)
    (keyless : rendering.aspect.key? rendering.object = none) : (view.render rendering).history = view.history := by
  unfold render present
  rw [keyless]

-- Numbers are given out one after another, so the next one is not among those of an explorer's containers.
theorem next_unused (ignoreStale : Bool) (settleDelay : Time) (actions : List Action) (answers : List Completion) :
    let explorer := actions.foldl act (start ignoreStale settleDelay)
    let view := (answers.foldl receive explorer).view
    let made := along makes (start ignoreStale settleDelay) actions ++ explorer.making answers
    view.results.nextId ∉ made.map Container.id ∧
      view.results.nextId ∉ view.results.containers.map Container.id ∧ view.results.nextId ∉ view.rendered := by
  intro explorer view made
  have accounted := Explorer.receives_accounted answers explorer _
    (Explorer.acts_accounted ignoreStale settleDelay actions)
  have structured := Explorer.acts_structured ignoreStale settleDelay actions
  refine ⟨?_, ?_, ?_⟩
  · intro again
    obtain ⟨container, member, same⟩ := List.mem_map.mp again
    exact Nat.lt_irrefl _ (same ▸ accounted.numbered container member)
  · exact fun shown => Nat.lt_irrefl _ (Results.displayed_numbered _ _ accounted _ shown)
  · exact fun noted => Nat.lt_irrefl _ (Explorer.receives_rendered answers explorer structured _ noted)

theorem rendering_is_faithful (aspect : Aspect) (object : Value) :
    (∀ view : View,
      let after := view.render ⟨aspect, object⟩
      ∃ container : Container,
        after.results = { containers := [container], nextId := view.results.nextId + 1, scroll := 0 } ∧
        container.id = view.results.nextId ∧ after.rendered = view.rendered ++ [container.id] ∧
        (∀ key, aspect.ShowsKey container.fields key →
          after.history.current = some key ∧ (view.history.current = some key → after.history = view.history) ∧
            (view.history.current ≠ some key →
              after.history.entries = view.history.entries.take (view.history.cursor + 1) ++ [some key] ∧
                after.history.cursor = view.history.cursor + 1)) ∧
        ((∀ key, ¬ aspect.ShowsKey container.fields key) → after.history = view.history) ∧
        (∀ listing ∈ aspect.listings, ∃ items texts,
          object.Lists listing.source items ∧ Listed listing.Reads items texts ∧
            labelled listing.label container.fields = Rows.fields ⟨listing.label, listing.kind, texts⟩) ∧
        (∀ items, aspect ≠ .transaction → object.member? "transactions" = some (.array items) →
          labelled "Transactions" container.fields =
            [{ label := "Transactions", kind := .plain, value := some (toString items.length) }]) ∧
        ((aspect = .transaction ∨ ∀ items, object.member? "transactions" ≠ some (.array items)) →
          labelled "Transactions" container.fields = [])) ∧
    ∀ (ignoreStale : Bool) (settleDelay : Time) (actions : List Action) (answers : List Completion),
      let explorer := actions.foldl act (start ignoreStale settleDelay)
      let view := (answers.foldl receive explorer).view
      let made := along makes (start ignoreStale settleDelay) actions ++ explorer.making answers
      view.results.nextId ∉ made.map Container.id ∧
        view.results.nextId ∉ view.results.containers.map Container.id ∧ view.results.nextId ∉ view.rendered := by
  refine ⟨?_, next_unused⟩
  intro view after
  refine ⟨⟨view.results.nextId, aspect.title, aspect.fields object⟩, rfl, rfl, rfl, ?_, ?_,
    aspect.listings_shown object, aspect.count_shown object, aspect.count_absent object⟩
  · intro key shown
    have found := (aspect.key_shown object key).mpr shown
    have pushed : after.history = view.history.push (some key) := render_history view ⟨aspect, object⟩ key found
    rw [pushed]
    exact ⟨view.history.push_current _, view.history.push_same _, view.history.push_other _⟩
  · intro silent
    refine render_keyless view ⟨aspect, object⟩ (Option.eq_none_iff_forall_ne_some.mpr ?_)
    exact fun key found => silent key ((aspect.key_shown object key).mp found)

-- A transaction is listed by its own text or by its hash; the others count, but have no row.
example :
    let transactions := Value.array [.string "aa", .null, .object [("hash", .bool true)], .object [("hash", .null)]]
    (Aspect.block.fields (.object [("transactions", transactions)])).map Field.value =
      [some "4", some "aa", some "true"] := by decide +kernel

end View
end ChainExplorer
