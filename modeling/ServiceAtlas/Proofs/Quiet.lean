import ServiceAtlas.Operation.Translate
import ServiceAtlas.Proofs.Traced

/-!
The diagnostics that tell of a dropped function, and the part of a run that never reports one: the
translation of a function that has a URL and a method. Only a second body makes it warn.
-/

namespace ServiceAtlas

/-- Why a function of the Full catalogue has no operation of its own in the document. -/
inductive Drop where
  | nameless
  | malformed
  | repeated
  | unroutable
  | replaced
deriving DecidableEq

def Diagnostic.drop? : Diagnostic → Option Drop
  | namelessFunction _ => some .nameless
  | malformedFunction _ _ => some .malformed
  | repeatedFunction _ => some .repeated
  | noConsoleEntry _ | noUrl _ | noMethod _ _ => some .unroutable
  | replacedRoute _ _ _ _ => some .replaced
  | _ => none

/-- The diagnostic tells of no dropped function. -/
def Diagnostic.Quiet (d : Diagnostic) : Prop := d.drop? = none

/-- The diagnostic is for those who look for details, and tells of no dropped function. -/
structure Diagnostic.Aside (d : Diagnostic) : Prop where
  quiet : d.Quiet
  detail : d.level = .debug

open Diagnostic (Aside Quiet)

theorem Noted.Only.quiet {α : Type} {x : Noted α} (h : Only Aside x) : Only Quiet x :=
  fun d hd => (h d hd).quiet

theorem Traced.Only.quiet {α : Type} {x : Traced α} (h : Only Aside x) : Only Quiet x :=
  fun d hd => (h d hd).quiet

namespace TypeName

theorem aside_resolve (overrides : Overrides) (name : String) :
    Noted.Only Aside (resolve overrides name) := by
  unfold resolve
  split
  · split
    · exact .bind (.note ⟨rfl, rfl⟩) fun _ => .pure _
    · split
      · exact .bind (.note ⟨rfl, rfl⟩) fun _ => .pure _
      · split
        · exact .bind (.note ⟨rfl, rfl⟩) fun _ => .pure _
        · exact .pure _
  · exact .bind (.note ⟨rfl, rfl⟩) fun _ => .pure _

end TypeName

namespace Schema
variable (overrides : Overrides) (vocabulary : Vocabulary)

theorem aside_ofName (name : String) : Noted.Only Aside (ofName overrides vocabulary name) :=
  (TypeName.aside_resolve overrides name).bind fun _ => .pure _

mutual
theorem aside_ofDescriptor (d : Descriptor) :
    Noted.Only Aside (ofDescriptor overrides vocabulary d) := by
  match d with
  | .primitive name =>
    unfold ofDescriptor
    split
    · exact .pure _
    · exact aside_ofName overrides vocabulary name
  | .array element =>
    unfold ofDescriptor
    exact (aside_ofDescriptor element).map _
  | .map value =>
    unfold ofDescriptor
    exact (aside_ofDescriptor value).map _
  | .enumeration members =>
    unfold ofDescriptor
    exact .pure _
  | .object fields =>
    unfold ofDescriptor
    exact (aside_ofFields fields).bind fun _ => .pure _
  | .reference name =>
    unfold ofDescriptor
    exact aside_ofName overrides vocabulary name

theorem aside_ofFields (fields : List Field) :
    Noted.Only Aside (ofFields overrides vocabulary fields) := by
  match fields with
  | [] =>
    unfold ofFields
    exact .pure _
  | ⟨_, type, _, _, _⟩ :: rest =>
    unfold ofFields
    exact (aside_ofDescriptor type).bind fun _ => (aside_ofFields rest).bind fun _ => .pure _
end

end Schema

namespace Descriptor
variable [Stack] (vocabulary : Vocabulary)

theorem aside_skip (noted : Value → Diagnostic) (h : ∀ entry, Aside (noted entry)) (entry : Value) :
    Traced.Only Aside (skip noted entry) :=
  .bind (.ofExcept _) fun _ => .note (h entry)

theorem aside_readMember (entry : Value) : Traced.Only Aside (readMember entry) := by
  unfold readMember
  split
  · exact .bind (aside_skip .malformedMember (fun _ => ⟨rfl, rfl⟩) _) fun _ => .pure _
  · exact .bind (.ofExcept _) fun _ => .bind (.ofChecked _ _) fun _ => .pure _
  · exact .bind (aside_skip .malformedMember (fun _ => ⟨rfl, rfl⟩) _) fun _ => .pure _

theorem aside_readMembers (entries : List Value) : Traced.Only Aside (readMembers entries) :=
  (Traced.Only.mapM aside_readMember entries).bind fun _ => .pure _

theorem aside_skipMalformedFields (entries : List Value) :
    Traced.Only Aside (skipMalformedFields entries) :=
  Traced.Only.forM (aside_skip .malformedField fun _ => ⟨rfl, rfl⟩) _

omit [Stack] in
theorem aside_makeField (name : String) (spec : Table Value) (type : Descriptor) :
    Traced.Only Aside (makeField name spec type) :=
  .bind (.ofChecked _ _) fun _ => .pure _

omit [Stack] in
theorem aside_descend {α : Type} {next : Nat → Traced α} (h : ∀ left, Traced.Only Aside (next left))
    (levels : Nat) : Traced.Only Aside (descend levels next) := by
  cases levels with
  | zero => exact .mk (.error _)
  | succ levels => exact h levels

mutual
theorem aside_classifyAt (levels : Nat) (v : Value) :
    Traced.Only Aside (classifyAt vocabulary levels v) := by
  match v with
  | .text s =>
    unfold classifyAt
    exact .ofExcept _
  | .object fields =>
    unfold classifyAt
    split
    · exact (aside_readMembers _).map _
    · cases h : classifyFields vocabulary levels fields with
      | none => exact .pure _
      | some x => exact aside_classifyFields levels fields x h
  | .null | .bool _ | .int _ | .float _ | .list _ =>
    unfold classifyAt
    exact .pure _

theorem aside_classifyFields (levels : Nat) (fields : List (String × Value)) (x : Traced Descriptor)
    (h : classifyFields vocabulary levels fields = some x) : Traced.Only Aside x := by
  match fields with
  | [] => simp [classifyFields] at h
  | (key, v) :: rest =>
    unfold classifyFields at h
    split at h
    · cases h
      exact aside_descend (fun left => (aside_readFields left v).map _) levels
    · exact aside_classifyFields levels rest x h

theorem aside_readFields (levels : Nat) (v : Value) :
    Traced.Only Aside (readFields vocabulary levels v) := by
  match v with
  | .object entries =>
    unfold readFields
    exact aside_readFieldTable levels entries
  | .list entries =>
    unfold readFields
    exact .bind (aside_skipMalformedFields entries) fun _ => aside_readFieldList levels entries
  | .null | .bool _ | .int _ | .float _ | .text _ =>
    unfold readFields
    exact .pure _

theorem aside_readFieldTable (levels : Nat) (entries : List (String × Value)) :
    Traced.Only Aside (readFieldTable vocabulary levels entries) := by
  match entries with
  | [] =>
    unfold readFieldTable
    exact .pure _
  | (name, spec) :: rest =>
    unfold readFieldTable
    exact (aside_readField levels name spec).bind fun _ =>
      (aside_readFieldTable levels rest).bind fun _ => .pure _

theorem aside_readFieldList (levels : Nat) (entries : List Value) :
    Traced.Only Aside (readFieldList vocabulary levels entries) := by
  match entries with
  | [] =>
    unfold readFieldList
    exact .pure _
  | .object [(name, spec)] :: rest =>
    unfold readFieldList
    exact (aside_readField levels name spec).bind fun _ =>
      (aside_readFieldList levels rest).bind fun _ => .pure _
  | .object [] :: rest | .object (_ :: _ :: _) :: rest | .null :: rest | .bool _ :: rest
  | .int _ :: rest | .float _ :: rest | .text _ :: rest | .list _ :: rest =>
    unfold readFieldList
    exact aside_readFieldList levels rest

theorem aside_readField (levels : Nat) (name : String) (v : Value) :
    Traced.Only Aside (readField vocabulary levels name v) := by
  match v with
  | .object spec =>
    unfold readField
    exact (aside_descend (fun left => aside_classifyType left spec) levels).bind fun _ =>
      aside_makeField name spec _
  | .null | .bool _ | .int _ | .float _ | .text _ | .list _ =>
    unfold readField
    exact (aside_descend (fun _ => .pure _) levels).bind fun _ => aside_makeField name [] _

theorem aside_classifyType (levels : Nat) (fields : List (String × Value)) :
    Traced.Only Aside (classifyType vocabulary levels fields) := by
  match fields with
  | [] =>
    unfold classifyType
    exact .pure _
  | (key, v) :: rest =>
    unfold classifyType
    split
    · exact aside_classifyAt levels v
    · exact aside_classifyType levels rest
end

theorem aside_classify (v : Value) : Traced.Only Aside (classify vocabulary v) :=
  aside_classifyAt vocabulary _ v

end Descriptor

theorem Schema.aside_ofRaw [Stack] (overrides : Overrides) (vocabulary : Vocabulary) (raw : Value) :
    Traced.Only Aside (ofRaw overrides vocabulary raw) :=
  .bind (Descriptor.aside_classify vocabulary raw) fun _ =>
    .lift (aside_ofDescriptor overrides vocabulary _)

namespace Argument

theorem aside_addConsole (lookup : Table (Table Value)) (entry : Value) :
    Noted.Only Aside (addConsole lookup entry) := by
  unfold addConsole
  split
  · exact .pure _
  · exact .bind (.note ⟨rfl, rfl⟩) fun _ => .pure _

theorem aside_addFull (lookup : Table (Table Value)) (entry : Value) :
    Noted.Only Aside (addFull lookup entry) := by
  unfold addFull
  dsimp only
  split
  · exact .pure _
  · exact .bind (.note ⟨rfl, rfl⟩) fun _ => .pure _

theorem aside_consoleLookup (entries : List Value) : Noted.Only Aside (consoleLookup entries) :=
  .foldlM aside_addConsole _ _

theorem aside_fullLookup (entries : List Value) : Noted.Only Aside (fullLookup entries) :=
  .foldlM aside_addFull _ _

end Argument

namespace Usage
variable (s : Setting)

theorem aside_place (name : List Char) : Noted.Only Aside (place s name) := by
  unfold place
  split
  · exact .pure _
  · split
    · exact .bind (.note ⟨rfl, rfl⟩) fun _ => .pure _
    · exact .pure _

theorem aside_parameterOf (t : Token) : Noted.Only Aside (parameterOf s t) := by
  cases t with
  | optional name => exact .pure _
  | required name => exact .bind (aside_place s name) fun _ => .pure _

theorem aside_readParameter (taken : List String) (token : List Char) :
    Noted.Only Aside (readParameter s taken token) := by
  unfold readParameter
  split
  · exact .bind (.note ⟨rfl, rfl⟩) fun _ => .pure _
  · refine .bind (aside_parameterOf s _) fun p => ?_
    split
    · exact .bind (.note ⟨rfl, rfl⟩) fun _ => .pure _
    · split
      · exact .bind (.note ⟨rfl, rfl⟩) fun _ => .pure _
      · exact .pure _

theorem aside_readParameters (taken : List String) (tokens : List (List Char)) :
    Noted.Only Aside (readParameters s taken tokens) := by
  induction tokens generalizing taken with
  | nil => exact .pure _
  | cons token rest ih =>
    refine .bind (aside_readParameter s taken token) fun found => ?_
    cases found with
    | none => exact ih taken
    | some p => exact .bind (ih _) fun _ => .pure _

theorem aside_parameters (usage : String) : Noted.Only Aside (parameters usage s) :=
  aside_readParameters s _ _

end Usage

namespace Operation
variable (a : Arguments)

variable [Stack]

theorem aside_schema (name : String) : Traced.Only Aside (a.schema name) :=
  .bind (.mk _) fun _ => Schema.aside_ofRaw _ _ _

theorem aside_variableSchema (name : String) : Traced.Only Aside (a.variableSchema name) := by
  refine .bind (.mk _) fun raw => ?_
  split
  · exact .pure _
  · exact Schema.aside_ofRaw _ _ _

theorem quiet_addParameter (inputs : Inputs) (p : Parameter) :
    Traced.Only Quiet (addParameter a inputs p) := by
  unfold addParameter
  refine .bind (aside_schema a p.name).quiet fun schema => ?_
  dsimp only
  split
  · split
    · exact .bind (.note rfl) fun _ => .pure _
    · exact .pure _
  · exact .pure _

theorem aside_addVariable (parameters : List OperationParameter) (name : String) :
    Traced.Only Aside (addVariable a parameters name) := by
  unfold addVariable
  split
  · exact .pure _
  · exact .bind (.note ⟨rfl, rfl⟩) fun _ => .bind (aside_variableSchema a name) fun _ => .pure _

theorem aside_returnSchema (overrides : Overrides) (returns : Value) :
    Traced.Only Aside (Responses.returnSchema overrides returns) := by
  unfold Responses.returnSchema
  split
  · exact .pure _
  · exact .pure _
  · exact .map _ (.lift (Schema.aside_ofName _ _ _))
  · exact .map _ (Schema.aside_ofRaw _ _ _)

theorem aside_make (overrides : Overrides) (options : Options) (returns : Value) :
    Traced.Only Aside (Responses.make overrides options returns) :=
  .bind (aside_returnSchema overrides returns) fun _ => .pure _

/-- Behind a usable URL and method nothing is dropped. -/
theorem quiet_build (full : FullView) (console : ConsoleView) (overrides : Overrides)
    (options : Options) (url method : String) :
    Traced.Only Quiet (build full console overrides options url method) := by
  unfold build
  refine .bind (.lift (Argument.aside_consoleLookup _).quiet) fun consoles => ?_
  refine .bind (.lift (Argument.aside_fullLookup _).quiet) fun fulls => ?_
  refine .bind (.note rfl) fun _ => ?_
  refine .bind (.lift (Usage.aside_parameters _ _).quiet) fun used => ?_
  refine .bind (.foldlM (quiet_addParameter _) _ _) fun inputs => ?_
  refine .bind (.foldlM (fun s n => (aside_addVariable _ s n).quiet) _ _) fun parameters => ?_
  refine .bind (.mk _) fun returns => ?_
  exact .bind (aside_make _ _ _).quiet fun responses => .pure _

end Operation
end ServiceAtlas
