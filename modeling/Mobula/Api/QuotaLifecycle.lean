import Mobula.Api.Quota
import Mobula.ControlPlane

/-!
# Quotas over the lifecycle

Only creation checks the quota. A suspended cluster does not count, so room that it frees can be
given away; resuming it brings it back without asking again.
-/

namespace Mobula

open Foundation ClusterTable Actor Store

variable {Provider : Type} {platform : Platform Provider} {seed : PolicyConfig}
  {project : String} {limit : ResourceMap}

/-- Every admission lock is free, and requests see a policy with a limit for the project. -/
structure Steady (seed : PolicyConfig) (project : String) (limit : ResourceMap)
    (world : World Provider) : Prop where
  free : ∀ other, world.admitLocks other = none
  limited : quotaFor (world.store.policyUnder seed) project = some limit

def Call.steadies : Call → Bool
  | .process (.lockAdmit _) => false
  | .process (.unlockAdmit _) => false
  | .control (.seedPolicy _) => false
  | _ => true

variable {call : Call} {world world' : World Provider}

theorem Steady.exec {thread : ℕ} {answer : call.Res} (steady : Steady seed project limit world)
    (harmless : call.steadies = true)
    (answered : exec platform thread call world = some (answer, world')) :
    Steady seed project limit world' where
  free := by
    intro other
    rw [admitLocks_exec answered, steady.free other]
    · rintro rfl
      cases harmless
    · rintro rfl
      cases harmless
  limited := by
    have policyEq := policy_exec answered
    have same : call.policyAfter world = world.store.policy := by
      unfold Call.policyAfter
      split
      · cases harmless
      · rfl
    rw [← steady.limited, policyUnder, policyUnder, policyEq, same]

theorem Steady.quiet (steady : Steady seed project limit world) (quiet : Quiet world world') :
    Steady seed project limit world' where
  free := by
    intro other
    rw [quiet.admitLocks]
    exact steady.free other
  limited := by
    rw [← steady.limited, policyUnder, policyUnder, quiet.policy]

theorem Steady.seeded (steady : Steady seed project limit world) :
    Steady seed project limit (world.seeded seed) where
  free := steady.free
  limited := by
    have same : (world.seeded seed).store.policyUnder seed = world.store.policyUnder seed := by
      unfold World.seeded policyUnder
      rcases stored : world.store.policy with _ | policy
      · cases boot : seedFromConfig seed <;> rfl
      · rfl
    rw [same, steady.limited]

theorem Actor.steadies {actor : Actor} (made : actor.calls seed call)
    (uncreating : ∀ identity body, actor ≠ .create identity body) : call.steadies = true := by
  have ofPassive {call : Call} (passive : call.passive = true) : call.steadies = true := by
    cases call with
    | control call => cases call <;> simp_all [Call.steadies, Call.passive]
    | process call => cases call <;> simp_all [Call.steadies, Call.passive]
    | _ => rfl
  have ofPass {call : Call} (made : PassCall call) : call.steadies = true := by
    cases made with
    | passive passive => exact ofPassive passive
    | reconcile row made =>
      cases made with
      | passive passive => exact ofPassive passive
      | _ => rfl
    | _ => rfl
  cases actor with
  | create identity body => exact absurd rfl (uncreating identity body)
  | delete identity id purge =>
    cases made with
    | passive passive => exact ofPassive passive
    | _ => rfl
  | lifecycle identity id command =>
    cases made with
    | passive passive => exact ofPassive passive
    | _ => rfl
  | _ => exact ofPass (passCall_of_isPass rfl made)

variable {actor : Actor} {before after : World Provider}

theorem Steady.turn (steady : Steady seed project limit before)
    (ran : Runs platform 0 (actor.program seed) before () after) :
    Steady seed project limit after := by
  by_cases creating : ∃ identity body, actor = .create identity body
  · rcases creating with ⟨identity, body, rfl⟩
    rcases ran_of_discard ran with ⟨response, created⟩
    have outcome := createCluster_outcome created (steady.free _)
    split at outcome
    · rcases outcome with ⟨stamp, quiet⟩
      have stored : Steady seed project limit ((before.seeded seed).setClusters
          (upsertDesired before.store.clusters body.id (body.ownedSpec identity)
            stamp)) := ⟨steady.seeded.free, steady.seeded.limited⟩
      exact stored.quiet quiet
    · rcases outcome with quiet | quiet
      · exact steady.quiet quiet
      · exact steady.seeded.quiet quiet
  · refine (actor.program_calls seed).yields_invariant (Steady seed project limit) ?_ ran steady
    intro call world answer world' made answered steady
    refine steady.exec (steadies made ?_) answered
    rintro identity body rfl
    exact creating ⟨identity, body, rfl⟩

def resumedBy (actor : Actor) (world : World Provider) : Option StoredCluster :=
  match actor with
  | .lifecycle identity id .resume => world.store.commandRow identity id .resume
  | _ => none

/-- A cluster of the project that a turn resumes would be admitted by the quota check. -/
def ResumeAdmitted (project : String) (limit : ResourceMap) (actor : Actor)
    (world : World Provider) : Prop :=
  ∀ row, resumedBy actor world = some row → row.spec.project = project →
    quotaAdmits world.store.clusters.rows limit row.id row.spec = true

theorem Actor.not_raises (made : actor.calls seed call)
    (uncreating : ∀ identity body, actor ≠ .create identity body)
    (unresuming : ∀ identity id, actor ≠ .lifecycle identity id .resume) :
    call.raises project = false := by
  have ofPass {call : Call} (made : PassCall call) : call.raises project = false := by
    cases made with
    | passive passive => exact not_raises_of_passive passive
    | reconcile row made =>
      cases made with
      | passive passive => exact not_raises_of_passive passive
      | _ => rfl
    | _ => rfl
  cases actor with
  | create identity body => exact absurd rfl (uncreating identity body)
  | delete identity id purge =>
    cases made with
    | passive passive => exact not_raises_of_passive passive
    | _ => rfl
  | lifecycle identity id command =>
    cases made with
    | passive passive => exact not_raises_of_passive passive
    | flip =>
      cases command with
      | suspend => rfl
      | resume => exact absurd rfl (unresuming identity id)
  | _ => exact ofPass (passCall_of_isPass rfl made)

theorem ProjectFits.created {identity : Caller} {body : CreateCluster}
    {response : Response} (fits : ProjectFits project limit before.store.clusters)
    (steady : Steady seed project limit before)
    (ran : Runs platform 0 (createCluster seed identity body) before response after) :
    ProjectFits project limit after.store.clusters := by
  have outcome := createCluster_outcome ran (steady.free _)
  split at outcome
  · next admitted =>
      rcases outcome with ⟨stamp, quiet⟩
      rw [quiet.clusters]
      by_cases targets : (body.ownedSpec identity).project = project
      · have affordable : quotaAdmits before.store.clusters.rows limit body.id
            (body.ownedSpec identity) = true := by
          simp [createAdmits, policyAdmits, targets, steady.limited] at admitted
          exact admitted.2.1
        exact (covers_self project body.id before.store.clusters).fits_of_change affordable
          targets fun _ _ => load_upsertDesired
      · have harmless : (Call.row (.upsertDesired body.id (body.ownedSpec identity))).raises
            project = false := by simpa [Call.raises] using targets
        exact fits.of_load fun id spec loaded => load_execRow harmless loaded
  · rcases outcome with quiet | quiet
    · rw [quiet.clusters]
      exact fits
    · rw [quiet.clusters]
      exact fits

theorem ProjectFits.resumed {identity : Caller} {id : ClusterId} {response : Response}
    (fits : ProjectFits project limit before.store.clusters)
    (ran : Runs platform 0 (lifecycleCommand identity id .resume) before response after)
    (admitted : ResumeAdmitted project limit (.lifecycle identity id .resume) before) :
    ProjectFits project limit after.store.clusters := by
  have outcome := lifecycleCommand_outcome ran
  cases through : before.store.commandRow identity id .resume with
  | none =>
    rw [through] at outcome
    have quiet : Quiet before after := outcome
    rw [quiet.clusters]
    exact fits
  | some row =>
    rw [through] at outcome
    have quiet : Quiet (before.setClusters
      (setDesired before.store.clusters id .running before.now)) after := outcome
    rw [quiet.clusters]
    have found : before.store.clusters.find? id = some row :=
      (Option.filter_eq_some_iff.mp through).1
    have rowId : row.id = id := Table.key_of_find? found
    by_cases targets : row.spec.project = project
    · have affordable := admitted row through targets
      rw [rowId] at affordable
      refine (covers_self project id before.store.clusters).fits_of_change affordable targets ?_
      intro other posted loaded
      have change := load_setDesired found loaded
      by_cases same : other = id
      · rw [if_pos same] at change ⊢
        exact change.1
      · rw [if_neg same] at change ⊢
        exact change
    · refine fits.of_load fun other posted loaded => ?_
      have change := load_setDesired found loaded
      by_cases same : other = id
      · rw [if_pos same] at change
        exact absurd change.2 targets
      · rw [if_neg same] at change
        exact change

theorem ProjectFits.turn (fits : ProjectFits project limit before.store.clusters)
    (steady : Steady seed project limit before)
    (ran : Runs platform 0 (actor.program seed) before () after)
    (admitted : ResumeAdmitted project limit actor before) :
    ProjectFits project limit after.store.clusters := by
  by_cases creating : ∃ identity body, actor = .create identity body
  · rcases creating with ⟨identity, body, rfl⟩
    rcases ran_of_discard ran with ⟨response, created⟩
    exact fits.created steady created
  · by_cases resuming : ∃ identity id, actor = .lifecycle identity id .resume
    · rcases resuming with ⟨identity, id, rfl⟩
      rcases ran_of_discard ran with ⟨response, resumed⟩
      exact fits.resumed resumed admitted
    · refine (actor.program_calls seed).yields_invariant
        (fun world => ProjectFits project limit world.store.clusters) ?_ ran fits
      intro call world answer world' made answered fits
      have harmless : call.raises project = false := by
        apply not_raises made
        · rintro identity body rfl
          exact creating ⟨identity, body, rfl⟩
        · rintro identity id rfl
          exact resuming ⟨identity, id, rfl⟩
      exact fits.of_load fun id spec loaded => load_exec answered harmless loaded

theorem resumeAdmitted_of_fits (ran : Runs platform 0 (actor.program seed) before () after)
    (fits : ProjectFits project limit after.store.clusters) :
    ResumeAdmitted project limit actor before := by
  intro row through targets
  unfold resumedBy at through
  split at through
  · next identity id =>
      rcases ran_of_discard ran with ⟨response, resumed⟩
      have outcome := lifecycleCommand_outcome resumed
      rw [through] at outcome
      have quiet : Quiet (before.setClusters
        (setDesired before.store.clusters id .running before.now)) after := outcome
      have found : before.store.clusters.find? id = some row :=
        (Option.filter_eq_some_iff.mp through).1
      rw [Table.key_of_find? found]
      rw [quiet.clusters, World.setClusters_clusters] at fits
      have lookup := find?_setDesired before.store.clusters id
      refine quotaAdmits_of_projectFits fits targets ?_ ?_
      · refine load_eq_some_iff.mpr ⟨withDesired .running before.now row, ?_, ?_, rfl⟩
        · simp [lookup id, found]
        · simp [StoredCluster.counts, withDesired, targets]
      · intro other differs
        exact load_congr ((lookup other _ _).trans (if_neg differs))
  · cases through

/--
In sequential runs from an empty store, the project stays within its limit after
every turn exactly when every resume let through would have been admitted.
-/
theorem quota_over_lifecycle_iff {origin final : World Provider}
    {turns : List (Turn (World Provider) Actor)}
    (serial : (serialPlane platform seed).Serial origin turns final)
    (empty : origin.store.clusters = .empty) (free : ∀ other, origin.admitLocks other = none)
    (limited : quotaFor (origin.store.policyUnder seed) project = some limit) :
    (∀ turn ∈ turns, ProjectFits project limit turn.after.store.clusters) ↔
      ∀ turn ∈ turns, ResumeAdmitted project limit turn.role turn.before := by
  constructor
  · intro always turn turnMem
    exact resumeAdmitted_of_fits (serial.ran_of_mem turnMem) (always turn turnMem)
  · intro admitted
    have settled := serial.preserves (fun world => Steady seed project limit world ∧
        ProjectFits project limit world.store.clusters) ?_ ?_ ?_
    · intro turn turnMem
      exact (settled.2 turn turnMem).2.2
    · rintro before after drifted ⟨steady, fits⟩
      refine ⟨⟨?_, ?_⟩, ?_⟩
      · intro other
        rw [drifted.admitLocks]
        exact steady.free other
      · rw [← steady.limited, policyUnder, policyUnder, drifted.policy]
      · refine fits.of_load fun id spec loaded => ?_
        rwa [load_reordered drifted.clusters] at loaded
    · rintro turn turnMem ran ⟨steady, fits⟩
      exact ⟨steady.turn ran, fits.turn steady ran (admitted turn turnMem)⟩
    · refine ⟨⟨free, limited⟩, ?_⟩
      rw [empty]
      exact ⟨.empty, rfl, rfl⟩

/-- A cluster is suspended, its room given to another one, and then it is resumed. -/
def suspendFillResume : List Actor :=
  [.create none ⟨"c1", headOnly "p"⟩, .reconcileAll 0, .lifecycle none "c1" .suspend,
    .reconcileAll 0, .create none ⟨"c2", headOnly "p"⟩, .lifecycle none "c1" .resume]

theorem quota_over_lifecycle_without_resume :
    ∃ turns final, (serialPlane demoPlatform roomForOneHead).Serial (demoWorld .empty) turns final ∧
      turns.map Turn.role = suspendFillResume.take 5 ∧
      ((∀ turn ∈ turns, ProjectFits "p" oneHead turn.after.store.clusters) ↔
        ∀ turn ∈ turns, ResumeAdmitted "p" oneHead turn.role turn.before) := by
  have finishes : ((serialPlane demoPlatform roomForOneHead).runAll (suspendFillResume.take 5)
      (demoWorld .empty)).isSome = true := by decide +kernel
  rcases Option.isSome_iff_exists.mp finishes with ⟨final, ran⟩
  rcases SerialSystem.serial_of_runAll ran with ⟨turns, serial, roles⟩
  exact ⟨turns, final, serial, roles, quota_over_lifecycle_iff serial rfl (fun _ => rfl) rfl⟩

theorem resume_exceeds_quota :
    quotaFor ((demoWorld .empty).store.policyUnder roomForOneHead) "p" = some oneHead ∧
    ∃ turns final, (serialPlane demoPlatform roomForOneHead).Serial (demoWorld .empty) turns final ∧
      turns.map Turn.role = suspendFillResume ∧
      ¬ProjectFits "p" oneHead final.store.clusters := by
  have outcome : ((serialPlane demoPlatform roomForOneHead).runAll suspendFillResume
      (demoWorld .empty)).map (fun world => decide (ProjectFits "p" oneHead world.store.clusters)) =
      some false := by decide +kernel
  rcases Option.map_eq_some_iff.mp outcome with ⟨final, ran, exceeded⟩
  rcases SerialSystem.serial_of_runAll ran with ⟨turns, serial, roles⟩
  exact ⟨rfl, turns, final, serial, roles, of_decide_eq_false exceeded⟩

end Mobula
