import Kbus.Bytes
import Mathlib.Data.Multiset.Basic

/-! The test harness's record of bindings, `BindingsMemory` in `test_kbus.py`: a dictionary
from each Ksock to the `(replier, name)` pairs bound on it, kept by `RecordingKSock.bind`
and `unbind` so that `check_bindings` can compare it with the bindings KBUS holds. The
record is meant to hold, as a multiset, the bindings made and not yet unmade. It does along
every run in which no name is bound on one Ksock both as a replier and as a listener;
`forget_binding` ignores `replier`, so with both it can drop the wrong one. -/
namespace Kbus

/-- The `bindings` dictionary, `none` for a Ksock it does not hold. -/
structure BindingsMemory (K : Type) where
  bindings : K → Option (List (Bool × Bytes))

namespace BindingsMemory

variable {K : Type} [DecidableEq K]

def init : BindingsMemory K := ⟨fun _ => none⟩

def set (mem : BindingsMemory K) (ksock : K) (value : Option (List (Bool × Bytes))) :
    BindingsMemory K :=
  ⟨fun k => if k = ksock then value else mem.bindings k⟩

def rememberKsock (mem : BindingsMemory K) (ksock : K) : BindingsMemory K := mem.set ksock (some [])

/-- `none` is the `KeyError` that `del` raises on a Ksock the dictionary lacks;
`remember_binding` and `forget_binding` raise it the same way when they index one. -/
def forgetKsock (mem : BindingsMemory K) (ksock : K) : Option (BindingsMemory K) :=
  (mem.bindings ksock).map fun _ => mem.set ksock none

def rememberBinding (mem : BindingsMemory K) (ksock : K) (name : Bytes) (replier : Bool) :
    Option (BindingsMemory K) :=
  (mem.bindings ksock).map fun ifList => mem.set ksock (some (ifList ++ [(replier, name)]))

end BindingsMemory

/-- The loop of `forget_binding`: delete the first pair whose name, its last element, is
`name`, whatever its `replier`. -/
def eraseFirstNamed (name : Bytes) : List (Bool × Bytes) → List (Bool × Bytes)
  | [] => []
  | thing :: rest => if thing.2 = name then rest else thing :: eraseFirstNamed name rest

namespace BindingsMemory

variable {K : Type} [DecidableEq K]

/-- `replier` is not read: the loop deletes by name alone. -/
def forgetBinding (mem : BindingsMemory K) (ksock : K) (name : Bytes) (_replier : Bool) :
    Option (BindingsMemory K) :=
  (mem.bindings ksock).map fun ifList => mem.set ksock (some (eraseFirstNamed name ifList))

@[simp] theorem bindings_set (mem : BindingsMemory K) (ksock k : K)
    (value : Option (List (Bool × Bytes))) :
    (mem.set ksock value).bindings k = if k = ksock then value else mem.bindings k := rfl

end BindingsMemory

/-! ## Runs of `RecordingKSock` calls -/

/-- A `RecordingKSock` call that changes the record: making one, `close`, `bind` and
`unbind`, each after KBUS has accepted the call. -/
inductive RecordingCall (K : Type)
  | create (ksock : K)
  | close (ksock : K)
  | bind (ksock : K) (name : Bytes) (replier : Bool)
  | unbind (ksock : K) (name : Bytes) (replier : Bool)

namespace RecordingCall

variable {K : Type} [DecidableEq K]

def apply (mem : BindingsMemory K) : RecordingCall K → Option (BindingsMemory K)
  | create ksock => some (mem.rememberKsock ksock)
  | close ksock => mem.forgetKsock ksock
  | bind ksock name replier => mem.rememberBinding ksock name replier
  | unbind ksock name replier => mem.forgetBinding ksock name replier

/-- What the record is meant to hold after the call: each open Ksock's bindings as a
multiset, with the call's binding added or taken away. -/
def intended (held : K → Option (Multiset (Bool × Bytes))) :
    RecordingCall K → Option (K → Option (Multiset (Bool × Bytes)))
  | create ksock => some (Function.update held ksock (some 0))
  | close ksock => (held ksock).map fun _ => Function.update held ksock none
  | bind ksock name replier =>
    (held ksock).map fun s => Function.update held ksock (some ((replier, name) ::ₘ s))
  | unbind ksock name replier =>
    (held ksock).map fun s => Function.update held ksock (some (s.erase (replier, name)))

/-- An `unbind` that cannot meet a binding of its name with the other `replier`. -/
def Unambiguous (held : K → Option (Multiset (Bool × Bytes))) : RecordingCall K → Prop
  | unbind ksock name replier => ∀ s, held ksock = some s → (!replier, name) ∉ s
  | _ => True

end RecordingCall

namespace BindingsMemory

variable {K : Type} [DecidableEq K]

/-- The record read as the multisets `check_bindings` compares: `bindings_match` sorts
both sides before comparing them. -/
def view (mem : BindingsMemory K) : K → Option (Multiset (Bool × Bytes)) :=
  fun k => (mem.bindings k).map (↑)

def run (mem : BindingsMemory K) : List (RecordingCall K) → Option (BindingsMemory K)
  | [] => some mem
  | c :: cs => (c.apply mem).bind fun mem' => run mem' cs

end BindingsMemory

def runIntended {K : Type} [DecidableEq K] (held : K → Option (Multiset (Bool × Bytes))) :
    List (RecordingCall K) → Option (K → Option (Multiset (Bool × Bytes)))
  | [] => some held
  | c :: cs => (c.intended held).bind fun held' => runIntended held' cs

def RunUnambiguous {K : Type} [DecidableEq K] (held : K → Option (Multiset (Bool × Bytes))) :
    List (RecordingCall K) → Prop
  | [] => True
  | c :: cs => c.Unambiguous held ∧ ∀ held', c.intended held = some held' → RunUnambiguous held' cs

/-! ## The record follows the bindings -/

/-- Where no pair of `name` has the other `replier`, the pair `forget_binding` deletes is the
pair `(replier, name)`. -/
theorem coe_eraseFirstNamed {name : Bytes} {replier : Bool} :
    ∀ {l : List (Bool × Bytes)}, (!replier, name) ∉ l →
      (eraseFirstNamed name l : Multiset (Bool × Bytes)) = (l : Multiset _).erase (replier, name)
  | [], _ => rfl
  | (r, n) :: rest, other => by
    simp only [List.mem_cons, not_or] at other
    rw [← Multiset.cons_coe]
    by_cases named : n = name
    · subst named
      have same : r = replier := by
        cases r <;> cases replier <;> simp_all
      rw [eraseFirstNamed, if_pos rfl, same, Multiset.erase_cons_head]
    · have differ : (r, n) ≠ (replier, name) := fun h => named (Prod.ext_iff.1 h).2
      rw [eraseFirstNamed, if_neg named, ← Multiset.cons_coe, Multiset.erase_cons_tail _ differ,
        coe_eraseFirstNamed other.2]

namespace BindingsMemory

variable {K : Type} [DecidableEq K]

theorem view_set (mem : BindingsMemory K) (ksock : K) (value : Option (List (Bool × Bytes))) :
    (mem.set ksock value).view = Function.update mem.view ksock (value.map (↑)) := by
  funext k
  by_cases here : k = ksock
  · subst here; simp [view]
  · simp [view, here]

end BindingsMemory

variable {K : Type} [DecidableEq K]

/-- One call: the record read as multisets changes as the bindings do, as long as an
`unbind` cannot meet its name bound with the other `replier`. -/
theorem RecordingCall.apply_view (mem : BindingsMemory K) (c : RecordingCall K)
    (fine : c.Unambiguous mem.view) :
    (c.apply mem).map BindingsMemory.view = c.intended mem.view := by
  cases c with
  | create ksock => simp [apply, intended, BindingsMemory.rememberKsock, BindingsMemory.view_set]
  | close ksock =>
    cases known : mem.bindings ksock <;>
      simp [apply, intended, BindingsMemory.forgetKsock, BindingsMemory.view_set,
        BindingsMemory.view, known]
  | bind ksock name replier =>
    cases known : mem.bindings ksock with
    | none => simp [apply, intended, BindingsMemory.rememberBinding, BindingsMemory.view, known]
    | some ifList =>
      have appended : ((ifList ++ [(replier, name)] : List (Bool × Bytes)) : Multiset (Bool × Bytes)) =
          (replier, name) ::ₘ ifList := by
        rw [Multiset.cons_coe, Multiset.coe_eq_coe]; exact List.perm_append_singleton _ _
      simp [apply, intended, BindingsMemory.rememberBinding, BindingsMemory.view_set,
        BindingsMemory.view, known, appended]
  | unbind ksock name replier =>
    cases known : mem.bindings ksock with
    | none => simp [apply, intended, BindingsMemory.forgetBinding, BindingsMemory.view, known]
    | some ifList =>
      have other : (!replier, name) ∉ ifList := by
        simpa using fine ifList (by simp [BindingsMemory.view, known])
      simp [apply, intended, BindingsMemory.forgetBinding, BindingsMemory.view_set,
        BindingsMemory.view, known, coe_eraseFirstNamed other]

/-- A whole run of `RecordingKSock` calls whose `unbind`s are unambiguous: the record raises
`KeyError` exactly where the Ksock is not open, and otherwise holds, as multisets, exactly
the bindings made on each open Ksock and not unmade. -/
theorem BindingsMemory.run_view (mem : BindingsMemory K) (calls : List (RecordingCall K))
    (fine : RunUnambiguous mem.view calls) :
    (mem.run calls).map BindingsMemory.view = runIntended mem.view calls := by
  induction calls generalizing mem with
  | nil => rfl
  | cons c cs ih =>
    have step := c.apply_view mem fine.1
    simp only [BindingsMemory.run, runIntended]
    cases applied : c.apply mem with
    | none =>
      rw [applied] at step
      rw [← step]; rfl
    | some mem' =>
      rw [applied, Option.map_some'] at step
      rw [← step, Option.some_bind, Option.some_bind]
      exact ih mem' (fine.2 _ step.symm)

theorem run_view_fred :
    ∃ calls : List (RecordingCall Nat),
      calls = [.create 0, .create 1, .bind 0 (ascii "$.Fred") false, .bind 1 (ascii "$.Fred") true,
        .bind 1 (ascii "$.Jim") false, .unbind 0 (ascii "$.Fred") false,
        .unbind 1 (ascii "$.Jim") false, .close 0] ∧
      RunUnambiguous (BindingsMemory.init : BindingsMemory Nat).view calls ∧
      ((BindingsMemory.init : BindingsMemory Nat).run calls).isSome = true ∧
      ((BindingsMemory.init : BindingsMemory Nat).run calls).map BindingsMemory.view =
        runIntended (BindingsMemory.init : BindingsMemory Nat).view calls := by
  refine ⟨_, rfl, ?_⟩
  have fine : RunUnambiguous (BindingsMemory.init : BindingsMemory Nat).view
      [.create 0, .create 1, .bind 0 (ascii "$.Fred") false, .bind 1 (ascii "$.Fred") true,
        .bind 1 (ascii "$.Jim") false, .unbind 0 (ascii "$.Fred") false,
        .unbind 1 (ascii "$.Jim") false, .close 0] := by
    have differ : ascii "$.Jim" ≠ ascii "$.Fred" := by decide
    simp [RunUnambiguous, RecordingCall.Unambiguous, RecordingCall.intended, BindingsMemory.view,
      BindingsMemory.init, Function.update_apply, differ]
  exact ⟨fine, rfl, BindingsMemory.run_view _ _ fine⟩

/-- The hypothesis cannot be dropped: with `$.Fred` bound on one Ksock as a listener and then
as a replier, unbinding the replier leaves the record holding the replier binding, where
what was bound and not unbound is the listener one. -/
theorem forgetBinding_drops_listener :
    ((BindingsMemory.init : BindingsMemory Nat).run
        [.create 0, .bind 0 (ascii "$.Fred") false, .bind 0 (ascii "$.Fred") true,
          .unbind 0 (ascii "$.Fred") true]).map (fun mem => mem.bindings 0) =
      some (some [(true, ascii "$.Fred")]) ∧
    (runIntended (BindingsMemory.init : BindingsMemory Nat).view
        [.create 0, .bind 0 (ascii "$.Fred") false, .bind 0 (ascii "$.Fred") true,
          .unbind 0 (ascii "$.Fred") true]).map (fun held => held 0) =
      some (some {(false, ascii "$.Fred")}) := by
  constructor
  · rfl
  · simp [runIntended, RecordingCall.intended, BindingsMemory.view, BindingsMemory.init]

end Kbus
