import ForwardingProxy.Dispatch.Call
import ForwardingProxy.Proofs.ProxySource.Overrides

/-!
Contract: what a dispatcher takes a forwarded member for, and what the member is forwarded for.

Owns: `ForwardedFor`, which traces a forwarded member back to a declared method that reads a
property, writes one or stands alone, and the fact that the tests of a dispatcher tell accessors
from all methods but those of the same shape.

A reader is known by `get_`, its receiver and its return type, and a writer by its reader. Of all
this a call keeps the first letters and the number of arguments.
-/

namespace ForwardingProxy

/-! ### Tests on calls -/

theorem Text.isSome_afterStart? {start text : String} :
    (afterStart? start text).isSome = true ↔ ∃ rest, text = start ++ rest := by
  simp [Option.isSome_iff_exists, afterStart?_eq_some]

namespace Dispatch.Call

theorem isGetter_ofForwarded {call : ForwardedCall} :
    (ofForwarded call).isGetter = true ↔
      (∃ rest, call.name = "get" ++ rest) ∧ call.argumentTypes = [] := by
  simp [isGetter, ofForwarded, Text.isSome_afterStart?]

theorem isSetter_ofForwarded {call : ForwardedCall} :
    (ofForwarded call).isSetter = true ↔
      (∃ rest, call.name = "set" ++ rest) ∧ call.argumentTypes.length = 1 := by
  simp [isSetter, ofForwarded, Text.isSome_afterStart?]

end Dispatch.Call

namespace Enumeration

/-! ### Members and declared methods -/

/-- The member is forwarded for that method of a trait, as what the trait takes the method for. -/
inductive ForwardedFor (host : Host) (owner : Declaration) (methods : List FunctionSignature) :
    FunctionSignature → ForwardedMember → Prop where
  | getter {reader : FunctionSignature} {property : Property} (declared : reader ∈ methods)
      (isProperty : ForReader host owner methods reader property) :
      ForwardedFor host owner methods reader (.ofGetter property)
  | setter {reader writer : FunctionSignature} {property : Property}
      (writes : writer ∈ writersOf methods reader) (isReader : reader ∈ methods)
      (isProperty : ForReader host owner methods reader property) :
      ForwardedFor host owner methods writer (.ofSetter property)
  | method {signature : FunctionSignature} {method : Method} (declared : signature ∈ methods)
      (alone : standsAlone methods signature = true)
      (isMethod : ForMethod host owner signature method) :
      ForwardedFor host owner methods signature (.ofMethod method)

namespace ForwardedFor

variable {host : Host} {owner : Declaration} {methods : List FunctionSignature}
  {signature : FunctionSignature} {member : ForwardedMember}

theorem declared (forwarded : ForwardedFor host owner methods signature member) :
    signature ∈ methods := by
  cases forwarded with
  | getter declared _ => exact declared
  | setter writes _ _ => exact (mem_writersOf.mp writes).1
  | method declared _ _ => exact declared

/-- The member is a getter, a setter or a method as its trait takes the declared method for one of
the three; only a method keeps the declared name and parameters in its call. -/
theorem kinds (forwarded : ForwardedFor host owner methods signature member) :
    (reads signature = true ∧ standsAlone methods signature = false ∧
        isPairedWriter methods signature = false ∧
        ∃ property type, member.call = .getter property type) ∨
      (reads signature = false ∧ standsAlone methods signature = false ∧
        isPairedWriter methods signature = true ∧
        ∃ property type, member.call = .setter property type) ∨
      (reads signature = false ∧ standsAlone methods signature = true ∧
        isPairedWriter methods signature = false ∧ member.call.name = signature.name ∧
        member.call.argumentTypes.length = signature.parameters.length) := by
  -- a reader borrows the value that a writer changes
  have apart : reads signature = true → isPairedWriter methods signature = true → False := by
    intro isReader isWriter
    have shared := receiver_of_reads isReader
    rw [receiver_of_isPairedWriter isWriter] at shared
    cases shared
  cases forwarded with
  | getter _ isProperty =>
      obtain ⟨written, read, _⟩ := isProperty.resolved
      have isReader := reads_eq_true.mpr ⟨_, _, read⟩
      exact .inl ⟨isReader, by simp [standsAlone, isReader],
        Bool.eq_false_iff.mpr (apart isReader), _, _, rfl⟩
  | setter writes isReader _ =>
      obtain ⟨_, property, type, read, writesIt⟩ := mem_writersOf.mp writes
      have isWriter := isPairedWriter_iff.mpr ⟨_, isReader, property, type, read, writesIt⟩
      exact .inr (.inl ⟨Bool.eq_false_iff.mpr fun isReader => apart isReader isWriter,
        by simp [standsAlone, isWriter], isWriter, _, _, rfl⟩)
  | method _ alone isMethod =>
      have notAccessor := alone
      simp only [standsAlone, Bool.and_eq_true, Bool.not_eq_true'] at notAccessor
      refine .inr (.inr ⟨notAccessor.1.2, alone, notAccessor.2, isMethod.overridden.name, ?_⟩)
      rw [isMethod.overridden.parameters.length_eq]
      exact List.length_map _

/-- What looks like reading a property does read one, or calls a method of the same shape. -/
theorem isGetter_iff (forwarded : ForwardedFor host owner methods signature member) :
    (Dispatch.Call.ofForwarded member.call).isGetter = true ↔
      reads signature = true ∨
        standsAlone methods signature = true ∧ (∃ rest, signature.name = "get" ++ rest) ∧
          signature.parameters = [] := by
  rw [Dispatch.Call.isGetter_ofForwarded]
  rcases forwarded.kinds with ⟨isReader, _, _, property, type, isCall⟩ |
    ⟨notReader, notAlone, _, property, type, isCall⟩ | ⟨notReader, alone, _, sameName, sameLength⟩
  · simp [isReader, isCall, ForwardedCall.getter]
  · simp [notReader, notAlone, isCall, ForwardedCall.setter]
  · rw [sameName, ← List.length_eq_zero_iff, sameLength, List.length_eq_zero_iff]
    simp [notReader, alone]

/-- What looks like writing a property does write one, or calls a method of the same shape. -/
theorem isSetter_iff (forwarded : ForwardedFor host owner methods signature member) :
    (Dispatch.Call.ofForwarded member.call).isSetter = true ↔
      isPairedWriter methods signature = true ∨
        standsAlone methods signature = true ∧ (∃ rest, signature.name = "set" ++ rest) ∧
          signature.parameters.length = 1 := by
  rw [Dispatch.Call.isSetter_ofForwarded]
  rcases forwarded.kinds with ⟨_, notAlone, notWriter, property, type, isCall⟩ |
    ⟨_, notAlone, isWriter, property, type, isCall⟩ | ⟨_, alone, notWriter, sameName, sameLength⟩
  · simp [notWriter, notAlone, isCall, ForwardedCall.getter]
  · simp [isWriter, isCall, ForwardedCall.setter]
  · rw [sameName, sameLength]
    simp [notWriter, alone]

end ForwardedFor

/-! ### Members of one trait -/

theorem forwardedFor_of_mem_ofProperty {host : Host} {owner : Declaration}
    {methods : List FunctionSignature} {reader : FunctionSignature} {property : Property}
    (isReader : reader ∈ methods) (isProperty : ForReader host owner methods reader property)
    {member : ForwardedMember} (isMember : member ∈ ForwardedMember.ofProperty property) :
    ∃ signature, ForwardedFor host owner methods signature member := by
  cases mutable : property.mutable with
  | false =>
      obtain rfl : member = .ofGetter property := by
        simpa [ForwardedMember.ofProperty, mutable] using isMember
      exact ⟨reader, .getter isReader isProperty⟩
  | true =>
      have isAccessor : member = .ofGetter property ∨ member = .ofSetter property := by
        simpa [ForwardedMember.ofProperty, mutable] using isMember
      rcases isAccessor with rfl | rfl
      · exact ⟨reader, .getter isReader isProperty⟩
      · obtain ⟨written, read, _, isMutable⟩ := isProperty.resolved
        rw [mutable] at isMutable
        obtain ⟨writer, isWriter, writes⟩ := List.any_eq_true.mp isMutable.symm
        exact ⟨writer, .setter (mem_writersOf.mpr ⟨isWriter, _, _, read, writes⟩) isReader
          isProperty⟩

theorem forwardedFor_of_mem_forwarded {host : Host} {interface : String} {part : Part}
    (belongs : part.BelongsTo host interface) {member : ForwardedMember}
    (isMember : member ∈ forwarded part.members) :
    ∃ signature, ForwardedFor host part.owner part.body.methods signature member := by
  rcases List.mem_append.mp isMember with ofProperty | ofMethod
  · obtain ⟨property, isProperty, isAccessor⟩ := List.mem_flatMap.mp ofProperty
    obtain ⟨reader, isReader, forReader⟩ :=
      partner_of_mem_right (ownMembers_properties belongs.members) isProperty
    exact forwardedFor_of_mem_ofProperty (List.mem_of_mem_filter isReader) forReader isAccessor
  · obtain ⟨method, isMethod, rfl⟩ := List.mem_map.mp ofMethod
    obtain ⟨signature, alone, forMethod⟩ :=
      partner_of_mem_right (ownMembers_forMethods belongs.members) isMethod
    obtain ⟨declared, alone⟩ := List.mem_filter.mp alone
    exact ⟨signature, .method declared alone forMethod⟩

theorem mem_forwardedMembers_withParts {name : String} {parts : List Part}
    {member : ForwardedMember} :
    member ∈ (withParts (.empty name) parts).forwardedMembers ↔
      ∃ part ∈ parts, member ∈ forwarded part.members := by
  simp only [Interface.forwardedMembers, withParts, Interface.empty, List.nil_append, forwarded,
    List.flatMap_assoc, List.map_flatMap, List.mem_append, List.mem_flatMap, and_or_left,
    exists_or]

/-! ### Members of an interface -/

/-- Every forwarded member goes back to a method that some trait of the interface declares. The
tests of a dispatcher hold of the calls of readers and of writers, each in turn, and of those of
methods that begin alike and take as many arguments. -/
theorem enumerate_accessor_tests {host : Host} {id : Nat} {interface : Interface}
    (enumerated : enumerate host id = .ok interface) {member : ForwardedMember}
    (isMember : member ∈ interface.forwardedMembers) :
    (∃ id owner body signature, host.declaration? id = .ok (some owner) ∧
        owner.qualifiedName ∈ interface.traits ∧ owner.trait? = some body ∧
        signature ∈ body.methods ∧ ForwardedFor host owner body.methods signature member) ∧
      ∀ owner methods signature, ForwardedFor host owner methods signature member →
        ((Dispatch.Call.ofForwarded member.call).isGetter = true ↔
          reads signature = true ∨
            standsAlone methods signature = true ∧ (∃ rest, signature.name = "get" ++ rest) ∧
              signature.parameters = []) ∧
        ((Dispatch.Call.ofForwarded member.call).isSetter = true ↔
          isPairedWriter methods signature = true ∨
            standsAlone methods signature = true ∧ (∃ rest, signature.name = "set" ++ rest) ∧
              signature.parameters.length = 1) := by
  refine ⟨?_, fun _ _ _ forwarded => ⟨forwarded.isGetter_iff, forwarded.isSetter_iff⟩⟩
  obtain ⟨parts, areParts, walk⟩ := enumerate_walk enumerated
  rw [areParts] at isMember
  obtain ⟨part, isPart, isOwn⟩ := mem_forwardedMembers_withParts.mp isMember
  have belongs := walk.belongs part isPart
  obtain ⟨signature, forwarded⟩ := forwardedFor_of_mem_forwarded belongs isOwn
  have listed : part.name ∈ interface.traits := by
    rw [areParts]
    exact List.mem_map_of_mem isPart
  exact ⟨part.id, part.owner, part.body, signature, belongs.declared, listed,
    (includedTrait_eq_ok.mp belongs.included).1, forwarded.declared, forwarded⟩

/-- The methods of the cell: the accessors of a property, and two methods that look like accessors
without being any. -/
def cellMethods : List FunctionSignature :=
  [⟨"get_label", some .shared, [], some (.path ["String"] []), false, false⟩,
    ⟨"set_label", some .exclusive, [⟨some "label", .path ["String"] []⟩], none, false, false⟩,
    ⟨"get", some .shared, [], some (.path ["u32"] []), false, false⟩,
    ⟨"set", some .exclusive, [⟨some "value", .path ["u32"] []⟩], none, false, false⟩]

/-- The sources that declare the cell. -/
def cellTable : SymbolTable where
  scopes := [.new "crate" none]
  declarations := [
    ⟨"Cell", "crate", 0, .trait ⟨false, [], cellMethods.map .method⟩, [], none, true⟩]
  facts := []
  announced := []

/-- The interface of the cell. -/
def cellInterface : Interface :=
  ⟨"crate::Cell", ["crate::Cell"],
    [⟨"label", .named "std::string::String", true, "crate::Cell"⟩],
    [⟨"get", .shared, [], .named "u32", "crate::Cell"⟩,
      ⟨"set", .exclusive, [⟨"value", .named "u32"⟩], .unit, "crate::Cell"⟩]⟩

theorem cellInterface_accessor_tests :
    enumerate cellTable.host 0 = .ok cellInterface ∧
      ∀ member ∈ cellInterface.forwardedMembers, ∃ signature ∈ cellMethods,
        ((Dispatch.Call.ofForwarded member.call).isGetter = true ↔
          signature.name ∈ ["get_label", "get"]) ∧
        ((Dispatch.Call.ofForwarded member.call).isSetter = true ↔
          signature.name ∈ ["set_label", "set"]) := by
  have enumerated : enumerate cellTable.host 0 = .ok cellInterface := rfl
  refine ⟨enumerated, fun member isMember => ?_⟩
  obtain ⟨⟨id, owner, body, signature, known, _, isTrait, declared, forwarded⟩, tests⟩ :=
    enumerate_accessor_tests enumerated isMember
  have isCell := List.mem_of_getElem? (Except.ok.inj known)
  obtain rfl := List.mem_singleton.mp isCell
  cases isTrait
  refine ⟨signature, declared, ?_⟩
  rw [(tests _ _ _ forwarded).1, (tests _ _ _ forwarded).2]
  simp only [← Text.isSome_afterStart?]
  clear forwarded
  revert signature
  decide

/-- A call does not show whether its name was made from a property, so that a method may look like
an accessor. -/
theorem cellInterface_methods_look_like_accessors :
    enumerate cellTable.host 0 = .ok cellInterface ∧
      ∃ reading ∈ cellInterface.forwardedMembers, ∃ writing ∈ cellInterface.forwardedMembers,
        (Dispatch.Call.ofForwarded reading.call).isGetter = true ∧
        (∀ property ∈ cellInterface.properties, reading ≠ .ofGetter property) ∧
        (Dispatch.Call.ofForwarded writing.call).isSetter = true ∧
        ∀ property ∈ cellInterface.properties, writing ≠ .ofSetter property :=
  ⟨rfl, .ofMethod ⟨"get", .shared, [], .named "u32", "crate::Cell"⟩, by decide,
    .ofMethod ⟨"set", .exclusive, [⟨"value", .named "u32"⟩], .unit, "crate::Cell"⟩, by decide,
    by decide, by decide, by decide, by decide⟩

end Enumeration

end ForwardingProxy
