set_option autoImplicit false

/-!
# What crosses the bus

The daemon talks to players and sources through generated D-Bus stubs.  A stub
call is synchronous, blocks until the other side has answered, and either
succeeds or reports an error.  This file has the vocabulary for these calls and
the monad in which the audio path switch makes them.

Two things come from submodules that are not part of the repository and are
therefore parameters.  `V` stands for the contents of a `GVariant`; a
`GVariantWrapper` holds one or nothing.  `MSG_BUG_IF` and `msg_log_assert` report a
violated expectation and have no other effect here than leaving a record.
-/

namespace TapSwitch

/-- `GVariantWrapper`: a reference to a variant, or nothing (default
constructed, or moved from). -/
abbrev GVariantWrapper (V : Type) : Type := Option V

/-- `DBus::Proxy`: the local stand-in for an object of another process.  Every
registration call that succeeds creates its own proxy object, so the call it was
created for identifies it. -/
structure Proxy where
  /-- The registration call this proxy was created for. -/
  registration : Nat
  /-- `g_dbus_proxy_get_name()`: the bus name of the owner. -/
  name : String
  /-- `g_dbus_proxy_get_object_path()` -/
  objectPath : String
  deriving DecidableEq, Repr

/-- The methods the daemon calls on players and sources. -/
inductive Method where
  /-- `tdbus_aupath_player_call_activate_sync()` -/
  | activate
  /-- `tdbus_aupath_player_call_deactivate_sync()` -/
  | deactivate
  /-- `tdbus_aupath_source_call_selected_sync()` -/
  | selected
  /-- `tdbus_aupath_source_call_selected_on_hold_sync()` -/
  | selectedOnHold
  /-- `tdbus_aupath_source_call_deselected_sync()` -/
  | deselected
  deriving DecidableEq, Repr

/-- One outgoing call. -/
structure Call (V : Type) where
  /-- The method called. -/
  method : Method
  /-- The proxy it is called through. -/
  proxy : Proxy
  /-- The ID of the component called.  Source methods pass it as an argument, for
  player methods it is implied by the proxy. -/
  id : String
  /-- The request data passed along. -/
  data : GVariantWrapper V
  deriving DecidableEq, Repr

/-- How the other side answers: which of the methods succeed.  No operation of the
daemon calls the same method twice, so this covers every outcome. -/
abbrev Outcomes : Type := Method → Bool

/-- Undefined behaviour, all of it dereferencing a null pointer. -/
inductive Fault where
  /-- a component looked up in the registry that is not there -/
  | nullComponent
  /-- a component without D-Bus proxy -/
  | nullProxy
  /-- an output parameter that has not been set -/
  | nullPlayerId
  deriving DecidableEq, Repr

/-- What an operation on the audio path switch leaves in the record. -/
inductive BusEntry (V : Type) where
  /-- A call went out; `true` if it succeeded. -/
  | called (call : Call V) (ok : Bool)
  /-- `MSG_BUG_IF` fired. -/
  | bug
  /-- `msg_log_assert` fired. -/
  | assertionFailed
  deriving DecidableEq, Repr

/-- Neither `MSG_BUG_IF` nor `msg_log_assert`. -/
def BusEntry.IsCall {V : Type} : BusEntry V → Prop
  | .called _ _ => True
  | _ => False

instance {V : Type} (entry : BusEntry V) : Decidable entry.IsCall :=
  match entry with
  | .called _ _ => .isTrue trivial
  | .bug => .isFalse id
  | .assertionFailed => .isFalse id

/-- Dereference a pointer; `none` is the null pointer. -/
def deref {σ α : Type} (fault : Fault) : Option α → EStateM Fault σ α
  | some a => pure a
  | none => throw fault

@[simp] theorem run_map {ε σ α β : Type} (f : α → β) (x : EStateM ε σ α) (s : σ) :
    (f <$> x).run s =
      match x.run s with
      | .ok a s => .ok (f a) s
      | .error e s => .error e s := rfl

@[simp] theorem deref_some {σ α : Type} (fault : Fault) (a : α) (s : σ) :
    (deref fault (some a) : EStateM Fault σ α).run s = .ok a s := rfl

@[simp] theorem deref_none {σ α : Type} (fault : Fault) (s : σ) :
    (deref fault none : EStateM Fault σ α).run s = .error fault s := rfl

end TapSwitch
