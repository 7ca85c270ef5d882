import BuildConductor.Proofs.Trace

/-! What commands find on the disk.

A recording executor does what another does, and keeps a list of all calls with the
disk that each was made on. If the other leaves the disk alone, all calls in a row were
made on the disk that the first was made on (`Answers.recorded`). -/
namespace BuildConductor

variable {ε π : Type}

namespace Executor

/-- Whether commands change nothing on the disk. -/
def LeavesDisk (executor : Executor ε) : Prop :=
  ∀ call scene, (executor.answer call scene).2.1 = scene.1

/-- An executor that keeps a list of its calls, with the disk that each was made on. -/
def recording (executor : Executor ε) : Executor (ε × List (Call × Disk)) where
  run call disk tools :=
    let (answer, after, left) := executor.run call disk tools.1
    (answer, after, left, tools.2 ++ [(call, disk)])

theorem Answers.disk_eq {executor : Executor ε} (hleaves : executor.LeavesDisk)
    {scene last : Disk × ε} {calls : List (Call × Answer)}
    (h : executor.Answers scene calls last) : last.1 = scene.1 := by
  induction h with
  | nil => rfl
  | cons call _ ih => exact ih.trans (hleaves call _)

/-- Calls in a row are recorded in their order, with the disk that the first was made
on. -/
theorem Answers.recorded {executor : Executor ε} (hleaves : executor.LeavesDisk)
    {scene last : Disk × ε × List (Call × Disk)} {calls : List (Call × Answer)}
    (h : executor.recording.Answers scene calls last) :
    last.1 = scene.1 ∧ last.2.2 = scene.2.2 ++ calls.map fun made => (made.1, scene.1) := by
  induction h with
  | nil => exact ⟨rfl, (List.append_nil _).symm⟩
  | @cons scene last rest call _ ih =>
    obtain ⟨hdisk, hrecord⟩ := ih
    have hsame : (executor.recording.answer call scene).2.1 = scene.1 :=
      hleaves call (scene.1, scene.2.1)
    have hnext : (executor.recording.answer call scene).2.2.2 = scene.2.2 ++ [(call, scene.1)] :=
      rfl
    rw [hsame] at hdisk hrecord
    rw [hnext] at hrecord
    exact ⟨hdisk, by rw [hrecord, List.append_assoc]; rfl⟩

/-- Calls in a row find on the disk what the first finds there. -/
theorem Answers.forall_recorded {executor : Executor ε} (hleaves : executor.LeavesDisk)
    {scene last : Disk × ε × List (Call × Disk)} {calls : List (Call × Answer)}
    (h : executor.recording.Answers scene calls last) {P : Disk → Prop} (hscene : P scene.1)
    (hbefore : ∀ made ∈ scene.2.2, P made.2) : ∀ made ∈ last.2.2, P made.2 := by
  rw [(h.recorded hleaves).2]
  intro made hmade
  rcases List.mem_append.1 hmade with hold | hnew
  · exact hbefore made hold
  · obtain ⟨_, -, rfl⟩ := List.mem_map.1 hnew
    exact hscene

/-- Whatever commands do, the first of a row is made on the disk that the row begins with. -/
theorem Answers.exists_record {executor : Executor ε} {scene last : Disk × ε × List (Call × Disk)}
    {calls : List (Call × Answer)} (h : executor.recording.Answers scene calls last) :
    ∃ record, last.2.2 = scene.2.2 ++ record ∧ ∀ made, record.head? = some made →
      made.2 = scene.1 := by
  induction h with
  | nil => exact ⟨[], (List.append_nil _).symm, nofun⟩
  | @cons scene _ _ call _ ih =>
    obtain ⟨record, hrecord, -⟩ := ih
    have hnext : (executor.recording.answer call scene).2.2.2 = scene.2.2 ++ [(call, scene.1)] :=
      rfl
    refine ⟨(call, scene.1) :: record, by rw [hrecord, hnext, List.append_assoc]; rfl, ?_⟩
    rintro _ hmade
    cases hmade
    rfl

end Executor

/-- The crew with a recording executor. -/
def Crew.recording (crew : Crew ε π) : Crew (ε × List (Call × Disk)) π :=
  ⟨crew.executor.recording, crew.prompter⟩

/-- The world with an empty record. -/
def World.recording (world : World ε π) : World (ε × List (Call × Disk)) π :=
  ⟨world.disk, (world.tools, []), world.user, world.log⟩

end BuildConductor
