import Mathlib.Data.List.Basic

/-!
# `RosettaConstructionParseResponse` of the generated client

Model of the generated client model `RosettaConstructionParseResponse` (`src/unnamed/part_000`,
lines 80-109): `RosettaConstructionParseResponseFromJSON`,
`RosettaConstructionParseResponseFromJSONTyped` and
`RosettaConstructionParseResponseToJSON`, which turn a JavaScript value of the JSON body into the
record and back.

* `JsValue` is a JavaScript value as these functions read and build it: `undefined`, `null`, the
  scalars, arrays and objects, an object as its properties in order. `json[key]` is `JsValue.get`,
  `undefined` for a missing key; `exists(json, key)` of the generated `runtime.ts` is `jsExists`.
* `(x as Array<any>).map(f)` is `arrayMap`: `f` on each element in order, the first error thrown
  rejecting, and a `TypeError` when `x` is not an array.
* The nested models `RosettaOperation` and `RosettaAccount` are not under `src/`: each is a
  `Codec`, its `FromJSON` and `ToJSON`, and the results that need them assume they round-trip
  (`Codec.RoundTrip`).
* `FromJSONTyped` copies `signers` without looking at it, so the record holds it as a `JsValue`;
  `account_identifier_signers` is `none` for `undefined`.

Results:
* `fromJSON_toJSON`: given round-tripping nested models, `FromJSON` reads back what `ToJSON`
  writes for a record exactly when its `signers` is not `null`; a `null` comes back `undefined`
  (`fromJSON_toJSON_value`);
* `fromJSON_idempotent`: a parsed value, written and parsed again, is the same value.
-/

namespace Sidecar.Client

/-! ## JavaScript values -/

/-- A JavaScript value as the generated model functions read and build it. A number is an
integer here: no function of the module reads one. -/
inductive JsValue
  | undefined
  | null
  | bool (b : Bool)
  | number (n : Int)
  | string (s : String)
  | array (elements : List JsValue)
  | object (properties : List (String × JsValue))

/-- `json[key]`: the property of an object, `undefined` for a key it lacks and on any other
value. -/
def JsValue.get : JsValue → String → JsValue
  | .object properties, key => (properties.lookup key).getD .undefined
  | _, _ => .undefined

/-- `value === undefined || value === null`. -/
def JsValue.isNullish : JsValue → Bool
  | .undefined | .null => true
  | _ => false

/-- `exists(json, key)` of the generated `runtime.ts`: `json[key]` is neither `null` nor
`undefined`. -/
def jsExists (json : JsValue) (key : String) : Bool :=
  !(json.get key).isNullish

/-- The `TypeError` a generated function throws on a value of the wrong shape. -/
inductive JsError
  | typeError

/-- `(x as Array<any>).map(f)`. -/
def arrayMap {α : Type} (f : JsValue → Except JsError α) : JsValue → Except JsError (List α)
  | .array elements => elements.mapM f
  | _ => .error .typeError

/-- The generated `FromJSON` and `ToJSON` of a nested model. -/
structure Codec (α : Type) where
  fromJSON : JsValue → Except JsError α
  toJSON : α → JsValue

/-- `FromJSON` reads back what `ToJSON` writes. -/
def Codec.RoundTrip {α : Type} (c : Codec α) : Prop :=
  ∀ a, c.fromJSON (c.toJSON a) = .ok a

/-- A nested model of one integer, for the examples: `FromJSON` rejects anything but a number. -/
def numberCodec : Codec Int where
  fromJSON
    | .number n => .ok n
    | _ => .error .typeError
  toJSON := .number

/-- A value that may also be `undefined` or `null`, as the generated functions take and return
it. -/
inductive Nullish (α : Type)
  | undefined
  | null
  | value (v : α)

/-! ## The model -/

variable {Op Account : Type}

/-- `RosettaConstructionParseResponse`, as `FromJSONTyped` builds it. -/
structure RosettaConstructionParseResponse (Op Account : Type) where
  operations : List Op
  /-- `signers?: Array<string>`, as whatever value the JSON held; `undefined` when absent. -/
  signers : JsValue
  account_identifier_signers : Option (List Account)

variable (op : Codec Op) (account : Codec Account)

/-- `RosettaConstructionParseResponseFromJSONTyped(json, ignoreDiscriminator)`. -/
def RosettaConstructionParseResponseFromJSONTyped (json : JsValue) (_ignoreDiscriminator : Bool) :
    Except JsError (Nullish (RosettaConstructionParseResponse Op Account)) :=
  match json with
  | .undefined => .ok .undefined
  | .null => .ok .null
  | json => do
    let operations ← arrayMap op.fromJSON (json.get "operations")
    let signers := if !jsExists json "signers" then .undefined else json.get "signers"
    let account_identifier_signers ←
      if !jsExists json "account_identifier_signers" then pure none
      else some <$> arrayMap account.fromJSON (json.get "account_identifier_signers")
    pure (.value ⟨operations, signers, account_identifier_signers⟩)

/-- `RosettaConstructionParseResponseFromJSON(json)`. -/
def RosettaConstructionParseResponseFromJSON (json : JsValue) :
    Except JsError (Nullish (RosettaConstructionParseResponse Op Account)) :=
  RosettaConstructionParseResponseFromJSONTyped op account json false

/-- `RosettaConstructionParseResponseToJSON(value)`. -/
def RosettaConstructionParseResponseToJSON :
    Nullish (RosettaConstructionParseResponse Op Account) → JsValue
  | .undefined => .undefined
  | .null => .null
  | .value value => .object
    [("operations", .array (value.operations.map op.toJSON)),
      ("signers", value.signers),
      ("account_identifier_signers", match value.account_identifier_signers with
        | none => .undefined
        | some accounts => .array (accounts.map account.toJSON))]

/-! ## What `FromJSON` reads -/

/-- `!exists(json, key) ? undefined : json[key]`, on the value `json[key]`: `null` read as
`undefined`, any other value kept. -/
def JsValue.orUndefined : JsValue → JsValue
  | .null => .undefined
  | v => v

@[simp] theorem JsValue.orUndefined_orUndefined (v : JsValue) :
    v.orUndefined.orUndefined = v.orUndefined := by
  cases v <;> rfl

theorem JsValue.orUndefined_eq_self_iff (v : JsValue) : v.orUndefined = v ↔ v ≠ .null := by
  cases v <;>
    simp only [orUndefined, ne_eq, not_true_eq_false, iff_false, reduceCtorEq, not_false_eq_true]

theorem exists_field (json : JsValue) (key : String) :
    (if !jsExists json key then JsValue.undefined else json.get key) =
      (json.get key).orUndefined := by
  unfold jsExists
  cases json.get key <;> rfl

section Arrays

variable {α : Type}

/-- A list of nested models, written by `ToJSON` and read back. -/
theorem arrayMap_toJSON {c : Codec α} (hc : c.RoundTrip) (as : List α) :
    arrayMap c.fromJSON (.array (as.map c.toJSON)) = .ok as := by
  induction as with
  | nil => rfl
  | cons a as ih =>
    simp only [arrayMap, List.map_cons, List.mapM_cons, hc a] at ih ⊢
    rw [ih]
    rfl

end Arrays

/-- `FromJSONTyped` of a value other than `undefined` and `null`: `operations`, then
`account_identifier_signers`, with `signers` copied, `null` read as `undefined`. -/
theorem fromJSON_spec (json : JsValue) (h : json.isNullish = false) :
    RosettaConstructionParseResponseFromJSON op account json =
      (arrayMap op.fromJSON (json.get "operations")).bind fun operations =>
        (if jsExists json "account_identifier_signers" then
            (arrayMap account.fromJSON (json.get "account_identifier_signers")).map some
          else .ok none).map fun accounts =>
            .value ⟨operations, (json.get "signers").orUndefined, accounts⟩ := by
  unfold RosettaConstructionParseResponseFromJSON RosettaConstructionParseResponseFromJSONTyped
  split
  · cases h
  · cases h
  · rw [exists_field]
    cases arrayMap op.fromJSON (json.get "operations") <;>
      cases jsExists json "account_identifier_signers" <;>
      cases arrayMap account.fromJSON (json.get "account_identifier_signers") <;> rfl

/-- A parsed record's `signers` is the value's, `null` read as `undefined`. -/
theorem fromJSON_signers {json : JsValue} {r : RosettaConstructionParseResponse Op Account}
    (h : RosettaConstructionParseResponseFromJSON op account json = .ok (.value r)) :
    r.signers = (json.get "signers").orUndefined := by
  cases hn : json.isNullish
  · rw [fromJSON_spec op account json hn] at h
    revert h
    cases arrayMap op.fromJSON (json.get "operations") <;>
      cases jsExists json "account_identifier_signers" <;>
      cases arrayMap account.fromJSON (json.get "account_identifier_signers") <;> rintro ⟨⟩ <;> rfl
  · cases json <;> cases hn <;> cases h

/-- `signers` holding a number, not an array of strings, is accepted and copied. -/
example : RosettaConstructionParseResponseFromJSON numberCodec numberCodec
    (.object [("operations", .array [.number 1]), ("signers", .number 7)]) =
      .ok (.value ⟨[1], .number 7, none⟩) := rfl

/-! ## The round trip -/

/-- The properties of the object `ToJSON` writes for a record. -/
theorem toJSON_get (r : RosettaConstructionParseResponse Op Account) :
    (RosettaConstructionParseResponseToJSON op account (.value r)).get "operations" =
        .array (r.operations.map op.toJSON) ∧
      (RosettaConstructionParseResponseToJSON op account (.value r)).get "signers" = r.signers ∧
      (RosettaConstructionParseResponseToJSON op account (.value r)).get
          "account_identifier_signers" =
        (r.account_identifier_signers.map fun as => .array (as.map account.toJSON)).getD
          .undefined := by
  obtain ⟨_, _, _ | _⟩ := r <;> exact ⟨rfl, rfl, rfl⟩

variable {op account}

/-- `FromJSON` of what `ToJSON` writes for a record: the record, with `signers` `null` read as
`undefined`. -/
theorem fromJSON_toJSON_value (hop : op.RoundTrip) (hacc : account.RoundTrip)
    (r : RosettaConstructionParseResponse Op Account) :
    RosettaConstructionParseResponseFromJSON op account
        (RosettaConstructionParseResponseToJSON op account (.value r)) =
      .ok (.value { r with signers := r.signers.orUndefined }) := by
  obtain ⟨hO, hS, hA⟩ := toJSON_get op account r
  rw [fromJSON_spec op account (RosettaConstructionParseResponseToJSON op account (.value r)) rfl,
    jsExists, hO, hS, hA, arrayMap_toJSON hop]
  obtain ⟨_, _, _ | as⟩ := r
  · rfl
  · show Except.map _
      (Except.map some (arrayMap account.fromJSON (.array (as.map account.toJSON)))) = _
    rw [arrayMap_toJSON hacc]
    rfl

/-- **`FromJSON` reads back what `ToJSON` writes** for a record, given that the nested models
round-trip, exactly when its `signers` is not `null`: `exists` reads a `null` `signers` as
absent, and it comes back `undefined`. -/
theorem fromJSON_toJSON (hop : op.RoundTrip) (hacc : account.RoundTrip)
    (r : RosettaConstructionParseResponse Op Account) :
    RosettaConstructionParseResponseFromJSON op account
        (RosettaConstructionParseResponseToJSON op account (.value r)) = .ok (.value r) ↔
      r.signers ≠ .null := by
  rw [fromJSON_toJSON_value hop hacc, ← JsValue.orUndefined_eq_self_iff]
  constructor
  · intro h
    simp only [Except.ok.injEq, Nullish.value.injEq] at h
    exact congrArg RosettaConstructionParseResponse.signers h
  · intro h
    rw [h]

theorem number_fromJSON_toJSON :
    numberCodec.RoundTrip ∧
      (RosettaConstructionParseResponseFromJSON numberCodec numberCodec
          (RosettaConstructionParseResponseToJSON numberCodec numberCodec
            (.value ⟨[1, 2], .array [.string "SP000"], some [3]⟩)) =
        .ok (.value ⟨[1, 2], .array [.string "SP000"], some [3]⟩) ↔
        JsValue.array [.string "SP000"] ≠ .null) :=
  ⟨fun _ => rfl, fromJSON_toJSON (fun _ => rfl) (fun _ => rfl) _⟩

/-- **Parsing is idempotent**: a value `FromJSON` parsed, written by `ToJSON` and parsed again,
is the same value. -/
theorem fromJSON_idempotent (hop : op.RoundTrip) (hacc : account.RoundTrip) {json : JsValue}
    {v : Nullish (RosettaConstructionParseResponse Op Account)}
    (h : RosettaConstructionParseResponseFromJSON op account json = .ok v) :
    RosettaConstructionParseResponseFromJSON op account
      (RosettaConstructionParseResponseToJSON op account v) = .ok v := by
  cases v with
  | undefined => rfl
  | null => rfl
  | value r =>
    have hs : r.signers.orUndefined = r.signers := by
      rw [fromJSON_signers op account h, JsValue.orUndefined_orUndefined]
    rw [fromJSON_toJSON_value hop hacc, hs]

theorem number_fromJSON_idempotent :
    numberCodec.RoundTrip ∧
      RosettaConstructionParseResponseFromJSON numberCodec numberCodec
          (.object [("operations", .array [.number 1]), ("signers", .null)]) =
        .ok (.value ⟨[1], .undefined, none⟩) ∧
      RosettaConstructionParseResponseFromJSON numberCodec numberCodec
          (RosettaConstructionParseResponseToJSON numberCodec numberCodec
            (.value ⟨[1], .undefined, none⟩)) = .ok (.value ⟨[1], .undefined, none⟩) :=
  have parsed : RosettaConstructionParseResponseFromJSON numberCodec numberCodec
      (.object [("operations", .array [.number 1]), ("signers", .null)]) =
        .ok (.value ⟨[1], .undefined, none⟩) := rfl
  ⟨fun _ => rfl, parsed, fromJSON_idempotent (fun _ => rfl) (fun _ => rfl) parsed⟩

end Sidecar.Client
