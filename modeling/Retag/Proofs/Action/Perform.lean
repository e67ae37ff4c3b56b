import Retag.Action

/-! Outcome and world behind an action put together from others. An action that fails hands on the
failure and the world it left; the actions behind it are not performed.
-/

set_option autoImplicit false

namespace Retag.Action

variable {Result Other : Type}

@[simp] theorem perform_pure (result : Result) (world : World) :
    (pure result : Action Result).perform world = (.ok result, world) := rfl

@[simp] theorem perform_ofOutcome (outcome : World → Except Failure Result × World) (world : World) :
    (ofOutcome outcome).perform world = outcome world := rfl

@[simp] theorem perform_attempt (failure : IoError → Failure) (call : Call Result) (world : World) :
    (attempt failure call).perform world =
      ((call world.disk).1.mapError failure, { world with disk := (call world.disk).2 }) := rfl

@[simp] theorem perform_note (record : Log.Record) (world : World) :
    (note record).perform world = (.ok (), { world with log := world.log ++ [record] }) := rfl

theorem perform_bind (action : Action Result) (next : Result → Action Other) (world : World) :
    (action >>= next).perform world =
      match action.perform world with
      | (.ok result, middle) => (next result).perform middle
      | (.error failure, final) => (.error failure, final) := by
  simp only [perform, ExceptT.run_bind, StateT.run_bind]
  cases (ExceptT.run action).run world with
  | mk outcome middle => cases outcome <;> rfl

theorem perform_bind_of_ok {action : Action Result} {next : Result → Action Other}
    {world middle : World} {result : Result} (first : action.perform world = (.ok result, middle)) :
    (action >>= next).perform world = (next result).perform middle := by
  rw [perform_bind, first]

theorem perform_bind_of_error {action : Action Result} {next : Result → Action Other}
    {world middle : World} {failure : Failure} (first : action.perform world = (.error failure, middle)) :
    (action >>= next).perform world = (.error failure, middle) := by
  rw [perform_bind, first]

@[simp] theorem perform_ask (lookUp : Disk → Result × Disk) (world : World) :
    (ask lookUp).perform world =
      (.ok (lookUp world.disk).1, { world with disk := (lookUp world.disk).2 }) := rfl

theorem perform_notes (records : List Log.Record) (world : World) :
    (records.forM note).perform world = (.ok (), { world with log := world.log ++ records }) := by
  induction records generalizing world with
  | nil => simp
  | cons record records ih =>
    rw [List.forM_eq_forM, List.forM_cons, perform_bind_of_ok (perform_note record world),
      ← List.forM_eq_forM, ih]
    simp

theorem perform_bind_cases {action : Action Result} {next : Result → Action Other}
    {world final : World} {outcome : Except Failure Other}
    (performed : (action >>= next).perform world = (outcome, final)) :
    (∃ failure, action.perform world = (.error failure, final) ∧ outcome = .error failure) ∨
      ∃ result middle, action.perform world = (.ok result, middle) ∧
        (next result).perform middle = (outcome, final) := by
  rw [perform_bind] at performed
  cases first : action.perform world with
  | mk reached middle =>
    rw [first] at performed
    cases reached with
    | error failure =>
      cases performed
      exact .inl ⟨failure, rfl, rfl⟩
    | ok result => exact .inr ⟨result, middle, rfl, performed⟩

theorem perform_attempt_of_ok {call : Call Result} {world : World} {result : Result} {disk : Disk}
    (called : call world.disk = (.ok result, disk)) (failure : IoError → Failure) :
    (attempt failure call).perform world = (.ok result, { world with disk }) := by
  rw [perform_attempt, called]
  rfl

theorem perform_attempt_of_error {call : Call Result} {world : World} {error : IoError} {disk : Disk}
    (called : call world.disk = (.error error, disk)) (failure : IoError → Failure) :
    (attempt failure call).perform world = (.error (failure error), { world with disk }) := by
  rw [perform_attempt, called]
  rfl

theorem perform_attempt_ok {failure : IoError → Failure} {call : Call Result} {world final : World}
    {result : Result} (performed : (attempt failure call).perform world = (.ok result, final)) :
    call world.disk = (.ok result, final.disk) := by
  rw [perform_attempt] at performed
  cases called : call world.disk with
  | mk reached disk =>
    rw [called] at performed
    cases reached with
    | error error => cases performed
    | ok result => cases performed; rfl

theorem perform_attempt_error {failure : IoError → Failure} {call : Call Result} {world final : World}
    {reached : Failure} (performed : (attempt failure call).perform world = (.error reached, final)) :
    ∃ error, call world.disk = (.error error, final.disk) ∧ reached = failure error := by
  rw [perform_attempt] at performed
  cases called : call world.disk with
  | mk outcome disk =>
    rw [called] at performed
    cases outcome with
    | error error => cases performed; exact ⟨error, rfl, rfl⟩
    | ok result => cases performed

theorem perform_withTemporary_cases {way : Path.Route} {create : Action Location}
    {use : Location → Action Result} {world final : World} {outcome : Except Failure Result}
    (performed : (withTemporary way create use).perform world = (outcome, final)) :
    (∃ failure, create.perform world = (.error failure, final) ∧ outcome = .error failure) ∨
      ∃ location middle later, create.perform world = (.ok location, middle) ∧
        (use location).perform middle = (outcome, later) ∧
        final = { later with disk := later.disk.discard way location } := by
  rcases perform_bind_cases performed with stopped | ⟨location, middle, created, used⟩
  · exact .inl stopped
  · rw [perform_ofOutcome] at used
    obtain ⟨rfl, rfl⟩ := Prod.mk.inj used
    exact .inr ⟨location, middle, _, created, rfl, rfl⟩

theorem perform_withTemporary_of_ok {way : Path.Route} {create : Action Location}
    {use : Location → Action Result} {world middle : World} {location : Location}
    (created : create.perform world = (.ok location, middle)) :
    (withTemporary way create use).perform world =
      (((use location).perform middle).1,
        { ((use location).perform middle).2 with
          disk := ((use location).perform middle).2.disk.discard way location }) :=
  perform_bind_of_ok created

def FailsOnly (allowed : Failure → Prop) (action : Action Result) : Prop :=
  ∀ world failure final, action.perform world = (.error failure, final) → allowed failure

namespace FailsOnly

variable {allowed : Failure → Prop}

theorem pure (result : Result) : FailsOnly allowed (Pure.pure result) := by
  intro world failure final performed
  cases performed

theorem note (record : Log.Record) : FailsOnly allowed (Action.note record) := by
  intro world failure final performed
  cases performed

theorem ask (lookUp : Disk → Result × Disk) : FailsOnly allowed (Action.ask lookUp) := by
  intro world failure final performed
  cases performed

theorem attempt {failure : IoError → Failure} {call : Call Result}
    (each : ∀ error, allowed (failure error)) : FailsOnly allowed (Action.attempt failure call) := by
  intro world reached final performed
  obtain ⟨error, -, rfl⟩ := perform_attempt_error performed
  exact each error

theorem bind {action : Action Result} {next : Result → Action Other}
    (first : FailsOnly allowed action) (rest : ∀ result, FailsOnly allowed (next result)) :
    FailsOnly allowed (action >>= next) := by
  intro world failure final performed
  rcases perform_bind_cases performed with ⟨reached, stopped, same⟩ | ⟨result, middle, -, last⟩
  · cases same
    exact first world _ final stopped
  · exact rest result middle failure final last

theorem withTemporary {way : Path.Route} {create : Action Location} {use : Location → Action Result}
    (first : FailsOnly allowed create) (rest : ∀ location, FailsOnly allowed (use location)) :
    FailsOnly allowed (Action.withTemporary way create use) := by
  intro world failure final performed
  rcases perform_withTemporary_cases performed with
    ⟨reached, stopped, same⟩ | ⟨location, middle, later, -, used, -⟩
  · cases same
    exact first world _ final stopped
  · exact rest location middle failure later used

theorem notes (records : List Log.Record) : FailsOnly allowed (records.forM Action.note) := by
  intro world failure final performed
  rw [perform_notes] at performed
  cases performed

end FailsOnly

/-- The action leaves the files and the working directory as they are. -/
def ReadsOnly (action : Action Result) : Prop :=
  ∀ world, ∃ faults log, faults <:+ world.disk.faults ∧
    (action.perform world).2 = ⟨{ world.disk with faults }, log⟩

namespace ReadsOnly

theorem pure (result : Result) : ReadsOnly (Pure.pure result) :=
  fun world => ⟨world.disk.faults, world.log, List.suffix_rfl, rfl⟩

theorem note (record : Log.Record) : ReadsOnly (Action.note record) :=
  fun world => ⟨world.disk.faults, _, List.suffix_rfl, rfl⟩

theorem ask {lookUp : Disk → Result × Disk}
    (reads : ∀ disk, ∃ faults, faults <:+ disk.faults ∧ (lookUp disk).2 = { disk with faults }) :
    ReadsOnly (Action.ask lookUp) := by
  intro world
  obtain ⟨faults, later, same⟩ := reads world.disk
  exact ⟨faults, world.log, later, by rw [perform_ask, same]⟩

theorem attempt {failure : IoError → Failure} {call : Call Result}
    (reads : ∀ disk, ∃ faults, faults <:+ disk.faults ∧ (call disk).2 = { disk with faults }) :
    ReadsOnly (Action.attempt failure call) := by
  intro world
  obtain ⟨faults, later, same⟩ := reads world.disk
  exact ⟨faults, world.log, later, by rw [perform_attempt, same]⟩

theorem bind {action : Action Result} {next : Result → Action Other}
    (first : ReadsOnly action) (rest : ∀ result, ReadsOnly (next result)) :
    ReadsOnly (action >>= next) := by
  intro world
  obtain ⟨faults, log, used, reached⟩ := first world
  rw [perform_bind]
  cases performed : action.perform world with
  | mk outcome middle =>
    rw [performed] at reached
    cases outcome with
    | error failure => exact ⟨faults, log, used, reached⟩
    | ok result =>
      obtain ⟨faults', log', used', reached'⟩ := rest result middle
      obtain rfl : middle = _ := reached
      exact ⟨faults', log', used'.trans used, reached'⟩

theorem disk_eq {action : Action Result} (reads : ReadsOnly action) {world final : World}
    {outcome : Except Failure Result} (performed : action.perform world = (outcome, final)) :
    ∃ faults, faults <:+ world.disk.faults ∧ final.disk = { world.disk with faults } := by
  obtain ⟨faults, log, later, reached⟩ := reads world
  rw [performed] at reached
  exact ⟨faults, later, congrArg World.disk reached⟩

end ReadsOnly

end Retag.Action
