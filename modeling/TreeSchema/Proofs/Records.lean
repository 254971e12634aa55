import TreeSchema.Encoder.Build
/-!
# What is noted for debugging

Generation notes each encoder that it begins, for debugging. All else that it notes are warnings:
reading the declarations of a message is `Silent`, whether or not it succeeds.
-/
namespace TreeSchema

namespace Traced

variable {α β : Type}

/-- The messages for debugging that a run notes. -/
def debugRecords (x : Traced α) : List String :=
  (x.events.filter (·.level = .debug)).map Event.message

theorem debugRecords_bind {x : Traced α} {f : α → Traced β} {a : α} (h : x.result = .ok a) :
    (x >>= f).debugRecords = x.debugRecords ++ (f a).debugRecords := by
  obtain ⟨events, result⟩ := x
  obtain rfl : result = .ok a := h
  have he : (Traced.mk events (.ok a) >>= f).events = events ++ (f a).events := rfl
  rw [debugRecords, he, List.filter_append, List.map_append]
  rfl

theorem debugRecords_note_bind {event : Event} (h : event.level = .debug) (f : Unit → Traced β) :
    (note event >>= f).debugRecords = event.message :: (f ()).debugRecords := by
  have he : (note event).debugRecords = [event.message] := by
    simp only [debugRecords, events_note]
    rw [List.filter_cons_of_pos (by simpa using h)]
    rfl
  rw [debugRecords_bind (a := ()) rfl, he]
  rfl

/-- The run notes nothing for debugging, whether or not it succeeds. -/
def Silent (x : Traced α) : Prop := ∀ event ∈ x.events, event.level ≠ .debug

theorem Silent.debugRecords {x : Traced α} (h : x.Silent) : x.debugRecords = [] := by
  have hn : x.events.filter (·.level = .debug) = [] :=
    List.filter_eq_nil_iff.2 fun event he => by simpa using h event he
  rw [Traced.debugRecords, hn, List.map_nil]

theorem silent_of_events_nil {x : Traced α} (h : x.events = []) : x.Silent := by
  intro event he
  rw [h] at he
  cases he

theorem Silent.bind {x : Traced α} {f : α → Traced β} (hx : x.Silent) (hf : ∀ a, (f a).Silent) :
    (x >>= f).Silent := by
  obtain ⟨events, result⟩ := x
  cases result with
  | error e => exact hx
  | ok a =>
    intro event he
    rcases List.mem_append.1 he with he | he
    · exact hx event he
    · exact hf a event he

theorem silent_pure (a : α) : (pure a : Traced α).Silent := silent_of_events_nil rfl

theorem silent_liftM (x : Except Error α) : (liftM x : Traced α).Silent := silent_of_events_nil rfl

theorem silent_warn {event : Event} (h : event.level = .warn) : (note event).Silent := by
  intro e he
  obtain rfl := List.mem_singleton.1 he
  rw [h]
  decide

theorem silent_forEach {f : α → Traced β} (h : ∀ a, (f a).Silent) (l : List α) :
    (forEach f l).Silent := by
  induction l with
  | nil => exact silent_pure _
  | cons a l ih => exact (h a).bind fun _ => ih.bind fun _ => silent_pure _

end Traced

open Traced

theorem Field.silent_ofDeclaration (text : String) : (Field.ofDeclaration text).Silent := by
  unfold Field.ofDeclaration
  dsimp only
  split
  · split
    · exact silent_pure _
    · exact (silent_warn rfl).bind fun _ => silent_pure _
  · exact silent_pure _
  · exact silent_of_events_nil rfl

namespace Scope

theorem silent_repeated (cls : TypeClass) (type source declaration : String) :
    (repeated cls type source declaration).Silent := by
  cases cls with
  | message => exact silent_pure _
  | enum => exact (silent_warn rfl).bind fun _ => silent_pure _
  | primitive => exact (silent_warn rfl).bind fun _ => silent_pure _

theorem silent_plainProperty (cx : Scope) (text : String) : (cx.plainProperty text).Silent := by
  refine (Field.silent_ofDeclaration text).bind fun field => ?_
  split
  · exact silent_pure _
  · cases field.modifier with
    | required => exact silent_pure _
    | optional => exact silent_pure _
    | repeated => exact (silent_repeated _ _ _ _).bind fun _ => silent_pure _

theorem silent_property (cx : Scope) (qualified : String) (x : String × Member) :
    (cx.property qualified x).Silent := by
  obtain ⟨key, member⟩ := x
  cases member with
  | plain => exact cx.silent_plainProperty key
  | oneof variants => exact silent_liftM _

theorem silent_dispatch (cx : Scope) (qualified : String) (n : Node) :
    (cx.dispatch qualified n).Silent := by
  unfold dispatch
  split
  · exact (silent_liftM _).bind fun _ => silent_pure _
  · exact (silent_forEach (cx.silent_property qualified) _).bind fun _ => silent_pure _

end Scope

end TreeSchema
