import Calculator.Proofs.Serving.Reports
import Calculator.Tool.Expression

/-!
# Values that data exchange can carry

Strict JSON has numbers for finite doubles only.  A value is strict if no other double
stands in it, at any depth (`Value.Strict`).

Doubles get into what clients are told in three ways.

* The value of an expression may be any double.
* So may the operand that a function is not defined at, and what was to be divided by
  zero; faults tell them in their details.
* The listing has the constants, which are finite.

In the first two cases the double goes through `Value.ofNumber`, which puts a word in the
place of one that is not finite.
-/

namespace Calculator

variable {x : Float}

namespace Value

/-- The double stands in the value, at some depth. -/
inductive Holds (x : Float) : Value → Prop
  | here : Holds x (.number x)
  | item {items : List Value} {item : Value} (hmem : item ∈ items) (h : Holds x item) :
      Holds x (.list items)
  | field {fields : Fields Value} {field : String × Value} (hmem : field ∈ fields)
      (h : Holds x field.2) : Holds x (.record fields)

/-- Every double that stands in the value is finite. -/
def Strict (value : Value) : Prop :=
  ∀ x, Holds x value → x.isFinite = true

@[simp] theorem strict_null : Strict .null := nofun

@[simp] theorem strict_truth (b : Bool) : Strict (.truth b) := nofun

@[simp] theorem strict_whole (n : Int) : Strict (.whole n) := nofun

@[simp] theorem strict_text (s : String) : Strict (.text s) := nofun

@[simp] theorem strict_number : Strict (.number x) ↔ x.isFinite = true := by
  constructor
  · intro h
    exact h x .here
  · intro h y hy
    cases hy
    exact h

@[simp] theorem strict_list {items : List Value} :
    Strict (.list items) ↔ ∀ item ∈ items, item.Strict := by
  constructor
  · intro h item hmem x hx
    exact h x (.item hmem hx)
  · intro h x hx
    cases hx with
    | item hmem hx => exact h _ hmem x hx

@[simp] theorem strict_record {fields : Fields Value} :
    Strict (.record fields) ↔ ∀ field ∈ fields, field.2.Strict := by
  constructor
  · intro h field hmem x hx
    exact h x (.field hmem hx)
  · intro h x hx
    cases hx with
    | field hmem hx => exact h _ hmem x hx

theorem strict_record_map {α : Type} {entries : List α} {f : α → String × Value}
    (h : ∀ entry ∈ entries, (f entry).2.Strict) : Strict (.record (entries.map f)) := by
  rw [strict_record]
  intro field hfield
  obtain ⟨entry, hentry, rfl⟩ := List.mem_map.1 hfield
  exact h entry hentry

theorem strict_list_map {α : Type} {entries : List α} {f : α → Value}
    (h : ∀ entry ∈ entries, (f entry).Strict) : Strict (.list (entries.map f)) := by
  rw [strict_list]
  intro item hitem
  obtain ⟨entry, hentry, rfl⟩ := List.mem_map.1 hitem
  exact h entry hentry

theorem strict_texts (texts : List String) : Strict (.list (texts.map .text)) :=
  strict_list_map fun text _ => strict_text text

/-- A double is fit for exchange, whichever it is. -/
@[simp] theorem strict_ofNumber (x : Float) : Strict (ofNumber x) := by
  unfold ofNumber
  split
  · next hfinite => exact strict_number.2 hfinite
  · exact strict_text _

theorem strict_exchangeable {value : Value} (h : value.Strict) : value.exchangeable.Strict := by
  cases value with
  | number x => exact strict_ofNumber x
  | null | truth | whole | text | list | record => exact h

end Value

/-! ### Words for doubles -/

/-- What is not finite and is a number is infinite. -/
theorem isInf_of_not_isFinite (h : x.isFinite = false) (hnan : x.isNaN = false) :
    x.isInf = true := by
  simp only [Float.isFinite, Float.isNaN, Float.isInf, Float.Model.isFinite, Float.Model.isNaN,
    Float.Model.isInf] at h hnan ⊢
  generalize x.toModel.unpack = parts at h hnan ⊢
  cases parts with
  | infinity => rfl
  | notANumber => cases hnan
  | zero | finite => cases h

/-- A double that is not finite has one of three words. -/
theorem text_mem_of_not_isFinite (h : x.isFinite = false) :
    Number.text x ∈ ["inf", "-inf", "nan"] := by
  unfold Number.text Number.Layout.write
  cases hnan : x.isNaN with
  | true => simp [Number.Layout.plain]
  | false =>
      have hinf := isInf_of_not_isFinite h hnan
      cases hsign : (Number.Binary.ofFloat x).negative <;> simp [hinf, hsign, Number.Layout.plain]

theorem exists_word_of_not_isFinite (h : x.isFinite = false) :
    ∃ word ∈ ["inf", "-inf", "nan"], Value.ofNumber x = .text word := by
  refine ⟨Number.text x, text_mem_of_not_isFinite h, ?_⟩
  unfold Value.ofNumber
  rw [if_neg (by simp [h])]

/-- A double is told by a word exactly if it is not finite. -/
theorem isFinite_eq_false_iff {x : Float} :
    x.isFinite = false ↔ ∃ word, Value.ofNumber x = .text word := by
  unfold Value.ofNumber
  cases x.isFinite with
  | true => simp
  | false => simp

/-! ### Failures -/

theorem Fault.strict_exchangeable_particulars (fault : Fault) :
    ∀ field ∈ fault.particulars, field.2.exchangeable.Strict := by
  cases fault <;> simp [Fault.particulars, Value.exchangeable]

theorem Fault.strict_details (fault : Fault) : ∀ field ∈ fault.details, field.2.Strict := by
  intro field hfield
  rcases Fields.mem_of_mem_update hfield with hfirst | hlater
  · rcases List.mem_pair.1 hfirst with rfl | rfl <;> exact Value.strict_text _
  · obtain ⟨particular, hmem, rfl⟩ := List.mem_map.1 hlater
    exact fault.strict_exchangeable_particulars particular hmem

/-- A double among the particulars is told in the details, by its word if it is not
finite. -/
theorem Fault.get?_details_of_number {fault : Fault} {name : String}
    (h : (name, .number x) ∈ fault.particulars) :
    fault.details.get? name = some (.ofNumber x) := by
  cases fault <;> simp [Fault.particulars] at h <;> obtain ⟨rfl, rfl⟩ := h <;> rfl

theorem Failure.strict_details (failure : Failure) : failure.details.Strict := by
  cases failure with
  | fault cause => exact Value.strict_record.2 cause.strict_details
  | refusal cause => cases cause <;> simp [Failure.details]
  | misconfiguration | missingKey | unreadableNumber | notRecord | capabilityTaken
  | toolTaken => simp [Failure.details]

theorem Failure.strict_toolFields (failure : Failure) :
    (Value.record failure.toolFields).Strict := by
  have hdetails := failure.strict_details
  simpa [Failure.toolFields] using hdetails

theorem Failure.strict_webFields (failure : Failure) :
    (Value.record failure.webFields).Strict := by
  have hdetails := failure.strict_details
  simpa [Failure.webFields] using hdetails

theorem Report.strict_toWebFields_validation (problems : List SchemaProblem) :
    (Value.record (Report.validation problems).toWebFields).Strict := by
  simp [Report.toWebFields, Report.shownDetails, Report.validation]

/-! ### Outcomes -/

theorem Outcome.strict_toFields {outcome : Outcome} (h : outcome.result.Strict) :
    (Value.record outcome.toFields).Strict := by
  have hresult := Value.strict_exchangeable h
  simpa [Outcome.toFields] using hresult

theorem Constant.isFinite_value (constant : Constant) : constant.value.isFinite = true := by
  cases constant <;> decide

namespace ExpressionTools

variable {settings : Except Failure Settings} {outcome : Outcome}

theorem strict_listing : listing.Strict := by
  have hfunctions : (Value.record functionListing).Strict :=
    Value.strict_record_map fun f _ => by simp
  have hconstants : (Value.record constantListing).Strict :=
    Value.strict_record_map fun constant _ => Value.strict_number.2 constant.isFinite_value
  have hoperators : (Value.record operatorListing).Strict :=
    Value.strict_record_map fun entry _ => by simp
  rw [listing, Value.strict_record]
  intro field hfield
  rcases List.mem_cons.1 hfield with rfl | hrest
  · exact hfunctions
  rcases List.mem_pair.1 hrest with rfl | rfl
  · exact hconstants
  · exact hoperators

theorem strict_of_evaluate {expression : Option String} {given : Value}
    (h : evaluate settings expression given = .ok outcome) : outcome.result.Strict := by
  obtain ⟨unit, -, htrace⟩ := bind_eq_ok_iff.1 h
  obtain ⟨trace, -, hok⟩ := bind_eq_ok_iff.1 htrace
  obtain rfl := Except.ok.inj hok
  simp

theorem strict_tokenData (token : Token) : (tokenData token).Strict := by
  simp [tokenData]

/-- **What a tool comes to is strict.** -/
theorem strict_of_handle {tool : String} {arguments : Value}
    (h : handle settings tool arguments = .ok outcome) : outcome.result.Strict := by
  unfold handle at h
  split at h
  · obtain ⟨expression, -, hrest⟩ := bind_eq_ok_iff.1 h
    obtain ⟨given, -, hvalue⟩ := bind_eq_ok_iff.1 hrest
    exact strict_of_evaluate hvalue
  split at h
  · obtain ⟨expression, -, hrest⟩ := bind_eq_ok_iff.1 h
    obtain ⟨tokens, -, hok⟩ := bind_eq_ok_iff.1 hrest
    obtain rfl := Except.ok.inj hok
    exact Value.strict_list_map fun token _ => strict_tokenData token
  split at h
  · obtain ⟨expression, -, hrest⟩ := bind_eq_ok_iff.1 h
    obtain ⟨tokens, -, hrest'⟩ := bind_eq_ok_iff.1 hrest
    obtain ⟨ordered, -, hok⟩ := bind_eq_ok_iff.1 hrest'
    obtain rfl := Except.ok.inj hok
    exact Value.strict_texts _
  split at h
  · obtain rfl := Except.ok.inj h
    exact strict_listing
  · cases h

end ExpressionTools

end Calculator
