import TreeSchema.Error
/-!
# Runs that keep a record

Reading a schema and generating code note what they do. A `Traced` value is the result of a run,
or the error that ended it, with the events up to there: a run that fails keeps the events before
the failure.
-/
namespace TreeSchema

/-- What a run notes. -/
inductive Event where
  /-- The lines of the schema text have been classified. -/
  | classified (lines : Nat)
  /-- A statement about the file as a whole, which the schema does not keep. -/
  | skipped (statement : String)
  | decoder (qualified : String)
  | encoder (qualified : String)
  | unknownModifier (modifier declaration : String)
  | repeatedEnum (declaration : String)
  | repeatedPrimitive (declaration : String)
  | generated (encoders nodeTypes : Nat)
  | wrote (input output : String)
deriving DecidableEq, Repr

inductive Level where
  | debug
  | info
  | warn
deriving DecidableEq, Repr

namespace Event

def level : Event → Level
  | .classified _ | .skipped _ | .decoder _ | .encoder _ => .debug
  | .unknownModifier _ _ | .repeatedEnum _ | .repeatedPrimitive _ => .warn
  | .generated _ _ | .wrote _ _ => .info

def message : Event → String
  | .classified lines => s!"classified {lines} schema lines"
  | .skipped statement => "skipping file-level statement " ++ quote statement
  | .decoder qualified => s!"generating enum decoder for {qualified}"
  | .encoder qualified => s!"generating message encoder for {qualified}"
  | .unknownModifier modifier declaration =>
    s!"unknown modifier \"{modifier}\" in \"{declaration}\", treating as required"
  | .repeatedEnum declaration =>
    s!"repeated enum field \"{declaration}\" is unsupported, decoding element-wise"
  | .repeatedPrimitive declaration =>
    s!"repeated primitive field \"{declaration}\" is unsupported, passing through"
  | .generated encoders nodeTypes =>
    s!"generated {encoders} encoders for {nodeTypes} node types"
  | .wrote input output => s!"wrote {input} → {output}"

end Event

/-- The outcome of a run, with the events that it noted. -/
structure Traced (α : Type) where
  events : List Event
  result : Except Error α

namespace Traced

variable {α β : Type}

/-- Runs `f` on the value of `x`, after the events of `x`. -/
def andThen (x : Traced α) (f : α → Traced β) : Traced β :=
  match x with
  | ⟨events, .error e⟩ => ⟨events, .error e⟩
  | ⟨events, .ok a⟩ =>
    match f a with
    | ⟨further, result⟩ => ⟨events ++ further, result⟩

instance : Monad Traced where
  pure a := ⟨[], .ok a⟩
  bind := andThen

/-- Notes an event. -/
def note (event : Event) : Traced Unit := ⟨[event], .ok ()⟩

/-- Ends the run. -/
def fail (e : Error) : Traced α := ⟨[], .error e⟩

/-- A step that notes nothing. -/
def ofExcept (x : Except Error α) : Traced α := ⟨[], x⟩

instance : MonadLift (Except Error) Traced where
  monadLift := ofExcept

/-- The results of a function along a list, in order. The first failure ends the run. -/
def forEach (f : α → Traced β) : List α → Traced (List β)
  | [] => pure []
  | a :: l => do
    let b ← f a
    let bs ← forEach f l
    pure (b :: bs)

@[simp] theorem result_pure (a : α) : (pure a : Traced α).result = .ok a := rfl

@[simp] theorem events_pure (a : α) : (pure a : Traced α).events = [] := rfl

@[simp] theorem result_note (event : Event) : (note event).result = .ok () := rfl

@[simp] theorem events_note (event : Event) : (note event).events = [event] := rfl

@[simp] theorem result_fail (e : Error) : (fail e : Traced α).result = .error e := rfl

@[simp] theorem result_ofExcept (x : Except Error α) : (ofExcept x).result = x := rfl

@[simp] theorem result_liftM (x : Except Error α) : (liftM x : Traced α).result = x := rfl

@[simp] theorem events_liftM (x : Except Error α) : (liftM x : Traced α).events = [] := rfl

/-- The result of a composed run hangs on the results of its parts only. -/
@[simp] theorem result_bind (x : Traced α) (f : α → Traced β) :
    (x >>= f).result = x.result >>= fun a => (f a).result := by
  obtain ⟨events, result⟩ := x
  cases result <;> rfl

end Traced

end TreeSchema
