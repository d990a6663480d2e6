import GpuCompute.Proofs.Owners
import GpuCompute.Proofs.Vulkan.Estates
import GpuCompute.Proofs.Vulkan.Managers

/-!
# Owners on the Vulkan driver

On the Vulkan driver managers are made in two more ways: with settings from an environment, and on handles
of the API that are lent to them, whose device is wrapped for the manager. Here, too, managers end what
was made for them, each handle once, and what they borrow they leave alone (`handles_owned`).
-/

namespace GpuCompute.Vulkan

open Session

variable {M : MemoryLibrary} [M.Lawful] {s : Session (driverOn M)} {o : Operation} {n : String}

/-! ## Borrowed handles -/

/-- Wrapping a device that is lent only asks. -/
theorem lends_borrowRaw {config : Config} {i device : Nat} {adapter : AdapterHandle}
    {families : List UInt32} :
    M.ledger.Lends (borrowRaw config i adapter device families) where
  ok {e m e'} made := by
    obtain ⟨x, e₁, wrapped, borrows⟩ := borrowRaw_ok made
    have wraps : M.ledger.Deals [] [] e e₁ := Ledger.deals_of_enters
      (((wraps_wrapDevice M).asks i adapter device).of_ok wrapped) (by simp) (by simp)
    exact ⟨wraps.then_ (.of_asked borrows.asked), Ledger.estate_of_borrows borrows⟩
  error failed := Ledger.deals_of_enters
    (((wraps_wrapDevice M).asks i adapter device).of_error (borrowRaw_error failed)) (by simp) (by simp)

theorem issues_borrowRaw {config : Config} {i device : Nat} {adapter : AdapterHandle}
    {families : List UInt32} :
    Attempt.Leaves (complete M).Issues (borrowRaw (M := M) config i adapter device families) := by
  refine .of_cases (fun e m e' made => ?_) (fun e error e' failed => ?_)
  · obtain ⟨x, e₁, wrapped, borrows⟩ := borrowRaw_ok made
    have wraps : (complete M).Issues e e₁ := issues_of_calls ((waitless_wrapDevice _ _ _).of_ok wrapped)
    exact wraps.trans ((complete M).issues (.of_asked borrows.asked))
  · exact issues_of_calls ((waitless_wrapDevice _ _ _).of_error (borrowRaw_error failed))

/-! ## Operations -/

/-- The operations of sessions on the Vulkan driver. -/
def interface (M : MemoryLibrary) : Interface (driverOn M) where
  Operation := Operation
  after o s := (step o).after s
  manager? := manager?
  creates?
    | .common o => Session.creates? o
    | .createFromEnvironment n .. => some n
    | _ => none
  tears?
    | .common o => Session.tears? o
    | _ => none
  isCall
    | .common o => Session.isCall o
    | _ => false
  keeps
    | .common o => Session.keeps o
    | _ => false

omit [M.Lawful] in
theorem regular_step (hs : s.Regular) (o : Operation) : ((step o).after s).Regular where
  named := named_step hs.named o
  orderly := allManagers_step hs.orderly Manager.lasts_orderly o
  paired := allManagers_step hs.paired Manager.lasts_paired o

/-- What is made in an operation has a handle of its own. -/
theorem issues_step (hs : s.Named) (o : Operation) :
    (complete M).Issues s.pool.env ((step o).after s).pool.env := by
  have effect := effect_step o s
  generalize (step o).after s = s' at effect ⊢
  cases effect with
  | common o => exact (complete M).issues (driven_step hs o)
  | aside h trace next =>
    have issues : reading.Issues Thing.handle (State.api s.pool.env.driver).next
        (State.api s'.pool.env.driver).next (Vulkan.trace s) (Vulkan.trace s') := by
      rw [next, trace]
      exact .refl _ _
    exact issues
  | creates n environment selection =>
    exact issues_addManager (complete M) hs n fun e =>
      (complete M).issues (Manager.drives_create _ selection e)
  | borrows => exact issues_addManager (complete M) hs _ issues_borrowRaw

/-- **What an operation does about handles**, unless the caller calls the driver by itself. -/
theorem balanced_step (hs : s.Regular) (ho : (interface M).isCall o = false) :
    Balanced M.ledger (manager? o) ((interface M).creates? o) s ((step o).after s) := by
  have effect := effect_step o s
  generalize (step o).after s = s' at effect ⊢
  cases effect with
  | common o =>
    refine Session.balanced_step (complete M) hs.named hs.orderly fun c hc => ?_
    subst hc
    cases ho
  | aside h trace => exact balanced_of_same (.of_trace trace) (congrArg (mapped _) h.managers)
  | creates n environment selection =>
    exact balanced_addManager (complete M) hs.orderly (Ledger.yields_create _ selection) nofun
  | borrows =>
    exact balanced_addManager (complete M) hs.orderly lends_borrowRaw.to_yields fun _ =>
      lends_borrowRaw.made_eq_nil

omit [M.Lawful] in
theorem interface_after_common (o : GpuCompute.Operation) (s : Session (driverOn M)) :
    (interface M).after (.common o) s = (Session.interface (driverOn M)).after o s := after_common o s

theorem sameHandles_step (ho : (interface M).isCall o = false) (hk : (interface M).keeps o = false) :
    SameHandles M.ledger s ((interface M).after o s) := by
  cases o with
  | common o =>
    rw [interface_after_common]
    exact (Session.lawful (d := driverOn M) (complete M)).sameHandles o ho hk
  | createFromEnvironment n environment selection =>
    change SameHandles _ s ((step (.createFromEnvironment n environment selection)).after s)
    rw [after_createFromEnvironment]
    exact handles_step (d := driverOn M) (o := .createManager n (.ofEnvironment environment) selection)
      (by simp) rfl s
  | borrowRaw n inst device adapter families config =>
    change SameHandles _ s ((step (.borrowRaw n inst device adapter families config)).after s)
    rw [after_borrowRaw]
    exact leaves_withInstance .refl (fun _ => leaves_withDevice .refl fun _ =>
      sameHandles_addManager) s
  | fire c =>
    change SameHandles _ s ((step (.fire c)).after s)
    rw [after_fire]
    rfl
  | setScript | describeObject | describeDriver => rfl

/-- What is true of the operations of every session is true of the others, too. -/
theorem lawful : (interface M).Lawful (complete M) where
  regular o hs := regular_step hs o
  issues o hs := issues_step hs.named o
  call o ho := by
    cases o with
    | common o =>
      rw [interface_after_common]
      exact (Session.lawful (d := driverOn M) (complete M)).call o ho
    | _ => cases ho
  balanced o hs ho := balanced_step hs ho
  creates o n ho := by
    cases o with
    | common o => exact (Session.lawful (d := driverOn M) (complete M)).creates o n ho
    | createFromEnvironment => exact ho
    | _ => cases ho
  tears o n hs ho := by
    cases o with
    | common o =>
      rw [interface_after_common]
      exact (Session.lawful (d := driverOn M) (complete M)).tears o n hs ho
    | _ => cases ho
  minds o ho := by
    cases o with
    | common o =>
      rw [interface_after_common]
      exact (Session.lawful (d := driverOn M) (complete M)).minds o ho
    | _ => cases ho
  sameHandles o ho hk := sameHandles_step ho hk

/-! ## Runs -/

/-- **Managers end what was made for them, and nothing else.** In every run, whatever a driver answers
and whichever calls fail, with any managers that have a driver of their own, that borrow an instance
and a device, or handles of the API: each instance, each device and all callbacks that were made for a
manager are ended at most once, exactly once when this manager was torn down, dropped or replaced, or
when it could not be made after all, and by an operation on this manager. A manager that borrows ends
nothing, however often it is torn down. Nor does the caller end any of these handles by calls of its own,
unless it has kept the handles of a manager. -/
theorem handles_owned :
    (∀ (d : Driver) (driver : d.State) (os : List GpuCompute.Operation),
      (Session.interface d.recorded).Owned d.ledger
        (Session.start ({ inner := driver } : Recorder d)) os) ∧
    ∀ (M : MemoryLibrary) [M.Lawful] (host : Host) (rules : Rules) (os : List Operation),
      (interface M).Owned M.ledger (start host rules) os :=
  ⟨fun d _ => Interface.owned (Session.lawful d.complete) (regular_start _) rfl rfl,
    fun _ _ _ _ => Interface.owned lawful (regular_start _) rfl rfl⟩

/-- The handles of a manager are lent to another one. Both are torn down, the borrower twice. -/
def lentOn : List GpuCompute.Operation :=
  [.createManager "owner" {} {}, .keepHandles "owner" "kept", .borrow "borrower" "kept" "kept" 1 [0] {},
    .destroyManager "borrower", .destroyManager "borrower", .dropManager "borrower",
    .destroyManager "owner"]

/-- Only the teardown of the owner ends anything. On the Vulkan driver handles of the API are lent. -/
theorem handles_owned_lentOn :
    (Session.interface InMemory.driver.recorded).Owned InMemory.driver.ledger
      (Session.start ({ inner := computing } : Recorder InMemory.driver)) lentOn ∧
    (Session.interface InMemory.driver.recorded).ended InMemory.driver.ledger lentOn
      (Session.start ({ inner := computing } : Recorder InMemory.driver)) =
        [Trace.Thing.device 6, Trace.Thing.inst 1] ∧
    (interface .own).Owned MemoryLibrary.own.ledger (start {} []) lending :=
  ⟨handles_owned.1 _ _ _, rfl, handles_owned.2 .own _ _ _⟩

end GpuCompute.Vulkan
