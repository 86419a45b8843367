import ChainExplorer.Proofs.Results.Origin
import ChainExplorer.View.Payload

set_option autoImplicit false

namespace ChainExplorer

open Json (Value)

-- Fields with one label, of one kind.
structure Rows where
  label : String
  kind : FieldKind
  texts : List String

def Rows.fields (rows : Rows) : List Field :=
  rows.texts.map fun text => { label := rows.label, kind := rows.kind, value := some text }

namespace Payload

theorem optional_rows (label : String) (kind : FieldKind) (text : Option String) :
    ((text.map fun text => ({ label, kind, value := some text } : Field)).toList) =
      Rows.fields ⟨label, kind, text.toList⟩ := by
  cases text <;> rfl

theorem listed_rows (label : String) (kind : FieldKind) (read : Value → Option String) (shows : Value → List Field)
    (each : ∀ item, shows item = ((read item).map fun text => ({ label, kind, value := some text } : Field)).toList)
    (items : List Value) : items.flatMap shows = Rows.fields ⟨label, kind, items.filterMap read⟩ := by
  rw [Rows.fields, List.map_filterMap, List.filterMap_eq_flatMap_toList]
  exact congrArg (items.flatMap ·) (funext each)

theorem transaction_rows (value : Option Value) :
    transactionFields value =
      Rows.fields ⟨"Transactions", .plain, ((value.bind Value.items?).map fun items => toString items.length).toList⟩ ++
        Rows.fields ⟨"", .transactionHash,
          (elements value).filterMap fun transaction => scalar? ((transaction.member? "hash").getD transaction)⟩ := by
  unfold transactionFields elements
  cases value.bind Value.items? with
  | none => rfl
  | some items => exact congrArg _ (listed_rows "" .transactionHash _ transactionField (fun _ => rfl) items)

end Payload

namespace Aspect

open Payload (address? elements output? scalar? size? time?)

-- The text of the main field.
def main? (aspect : Aspect) (object : Value) : Option String :=
  match aspect with
  | .block | .transaction => (object.member? "hash").bind scalar?
  | .address => (address? object).bind scalar?

-- The fields of an object, one group for each label.
def groups (aspect : Aspect) (object : Value) : List Rows :=
  let text (label : String) (kind : FieldKind) (name : String) : Rows :=
    ⟨label, kind, ((object.member? name).bind scalar?).toList⟩
  let list (label : String) (kind : FieldKind) (name : String) (read : Value → Option String) : Rows :=
    ⟨label, kind, (elements (object.member? name)).filterMap read⟩
  let size : Rows := ⟨"Size", .plain, ((object.member? "byteCount").bind size?).toList⟩
  let count : Rows :=
    ⟨"Transactions", .plain,
      (((object.member? "transactions").bind Value.items?).map fun items => toString items.length).toList⟩
  let transactions : Rows := list "" .transactionHash "transactions" fun transaction =>
    scalar? ((transaction.member? "hash").getD transaction)
  match aspect with
  | .block =>
      [⟨"Hash", .hash, (main? .block object).toList⟩, text "Height" .plain "height",
        text "Previous Block" .previousBlockHash "previousBlockHash", text "Merkle Root" .hash "merkleRoot",
        ⟨"Timestamp", .plain, ((object.member? "timestamp").bind time?).toList⟩,
        text "Difficulty" .plain "difficulty", text "Nonce" .plain "nonce", size, count, transactions]
  | .address =>
      [⟨"Address", .plain, (main? .address object).toList⟩, text "Balance" .plain "balance", count, transactions]
  | .transaction =>
      [⟨"Hash", .transactionHash, (main? .transaction object).toList⟩, list "Block" .blockHashes "blocks" scalar?,
        size, text "Fee" .plain "fee",
        list "Input" .transactionHash "inputs" fun input =>
          (input.member? "previousOutputTransactionHash").bind scalar?,
        list "Output" .plain "outputs" output?]

theorem fields_grouped (aspect : Aspect) (object : Value) :
    aspect.fields object = (aspect.groups object).flatMap Rows.fields := by
  cases aspect with
  | block =>
      simp only [fields, Payload.blockFields, Payload.scalarField, Payload.timeField, Payload.sizeField,
        Payload.optional_rows, Payload.transaction_rows, groups, main?, List.flatMap_cons, List.flatMap_nil,
        List.append_nil, List.append_assoc]
  | address =>
      simp only [fields, Payload.addressFields, Payload.scalarField, Payload.optional_rows, Payload.transaction_rows,
        groups, main?, List.flatMap_cons, List.flatMap_nil, List.append_nil, List.append_assoc]
  | transaction =>
      have blocks := Payload.listed_rows "Block" .blockHashes scalar?
        (fun block => Payload.scalarField "Block" .blockHashes (some block)) fun _ => rfl
      have inputs := Payload.listed_rows "Input" .transactionHash _
        (fun input => Payload.scalarField "Input" .transactionHash (input.member? "previousOutputTransactionHash"))
        fun _ => rfl
      have outputs := Payload.listed_rows "Output" .plain output? Payload.outputField fun _ => rfl
      simp only [fields, Payload.transactionObjectFields, blocks, inputs, outputs]
      simp only [Payload.scalarField, Payload.sizeField, Payload.optional_rows, groups, main?, List.flatMap_cons,
        List.flatMap_nil, List.append_nil, List.append_assoc]

end Aspect

theorem aspect_fields_untouched (aspect : Aspect) (object : Value) (field : Field)
    (member : field ∈ aspect.fields object) : field.Untouched := by
  rw [aspect.fields_grouped object] at member
  obtain ⟨rows, _, row⟩ := List.mem_flatMap.mp member
  obtain ⟨text, _, rfl⟩ := List.mem_map.mp row
  exact ⟨rfl, rfl⟩

end ChainExplorer
