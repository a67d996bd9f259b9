import Tobiko.Openstack.Glance.ImageSteps

/-!
Contract: what becomes of the images that several workers create under one name.

Owns: that no worker deletes an image that another one has returned (`ReturnedKept`),
that a call has deleted what it created and does not return when it ends
(`LeftoversDeleted`), the theorem that both hold in every run whose steps keep
uploads (`KeepsUploads`), and a run that breaks the first one.

The second property needs no condition. The first one does: a worker that has
uploaded its image waits for whatever image the name stands for, and may end with
another one. Then it deletes its own, which is active and may be in use.
-/

namespace Tobiko.Openstack.Glance

open Tobiko.Foundation

section Properties

variable {Name : Type}

/-- No worker deletes an image after another one has returned it. -/
def ReturnedKept (history : History Name) : Prop :=
  Workers.InOrder (fun before name event => ∀ imageId, event = .deleted imageId →
    ∀ other image, (other, .ended (.returned (some image))) ∈ before →
      image.id = imageId → other = name) history

/-- The images that the worker has created since it last called `create_image`. -/
def createdIds [DecidableEq Name] (name : Name) : History Name → List Nat
  | [] => []
  | (caller, .called) :: before => if caller = name then [] else createdIds name before
  | (creator, .created imageId) :: before =>
      if creator = name then imageId :: createdIds name before else createdIds name before
  | _ :: before => createdIds name before

/-- When a call ends, each image that it created and does not return has been deleted. -/
def LeftoversDeleted [DecidableEq Name] (history : History Name) : Prop :=
  Workers.InOrder (fun before name event => ∀ outcome, event = .ended outcome →
    ∀ imageId ∈ createdIds name before,
      (∃ image, outcome = .returned (some image) ∧ image.id = imageId) ∨
        ∃ deleter, (deleter, .deleted imageId) ∈ before) history

/-- The worker does not give up an image that it has uploaded: a lookup finds this
image, or one that the worker still waits for. -/
def KeepsUploads (state : State Name) (name : Name) : Event → Prop
  | .observed answer => ∀ imageId ∈ (state.workers name).cleanupImageIds,
      (name, .uploaded imageId) ∈ state.history →
        isImageStatusChanging answer = true ∨ ∃ image, answer = some image ∧ image.id = imageId
  | _ => True

/-- A worker without images of its own may find any image. -/
theorem keepsUploads_of_cleaned {state : State Name} {name : Name} {answer : Option Image}
    (cleaned : (state.workers name).cleanupImageIds = ∅) :
    KeepsUploads state name (.observed answer) := by
  intro imageId left
  rw [cleaned] at left
  exact absurd left (Finset.notMem_empty imageId)

end Properties

section Workers

variable {Name : Type} {state : State Name} {name : Name}
  {event : Event} {worker : Worker} {service : ImageService}

/-! ### What holds in every run -/

/-- What holds of the workers, the images and the history in every reached state. -/
structure Sound (state : State Name) : Prop where
  worker : ∀ name, (state.workers name).Sound
  snapshot : ∀ name image, (state.workers name).image = some image →
    image.id < state.shared.nextId ∧
      (image.status ∉ changingStatus →
        ∀ current ∈ state.shared.images, current.id = image.id → current = image)
  created : ∀ name imageId, (name, .created imageId) ∈ state.history →
    imageId < state.shared.nextId
  owner : ∀ name other imageId, (name, .created imageId) ∈ state.history →
    (other, .created imageId) ∈ state.history → name = other
  cleanup : ∀ name, ∀ imageId ∈ (state.workers name).cleanupImageIds,
    (name, .created imageId) ∈ state.history
  uploaded : ∀ name imageId, (name, .uploaded imageId) ∈ state.history →
    imageId < state.shared.nextId ∧
      ∀ image ∈ state.shared.images, image.id = imageId → image.status = .active
  active : ∀ name, ∀ image ∈ state.shared.images, image.status = .active →
    (name, .created image.id) ∈ state.history → (name, .uploaded image.id) ∈ state.history
  deleted : ∀ name imageId, (name, .deleted imageId) ∈ state.history →
    imageId < state.shared.nextId ∧ ∀ image ∈ state.shared.images, image.id ≠ imageId

theorem Sound.start (fixtures : Name → UploadGlanceImageFixture) (service : ImageService) :
    Sound (start fixtures service) where
  worker _ := trivial
  snapshot _ _ impossible := by cases impossible
  created _ _ impossible := by cases impossible
  owner _ _ _ impossible := by cases impossible
  cleanup _ _ impossible := absurd impossible (Finset.notMem_empty _)
  uploaded _ _ impossible := by cases impossible
  active _ _ _ _ impossible := by cases impossible
  deleted _ _ impossible := by cases impossible

section Moved

variable (sound : Sound state)
  (step : Step event (state.workers name, state.shared) (worker, service))

include sound step

/-- A worker that uploads an image has created it. -/
theorem Sound.creator {imageId : Nat} (uploads : event = .uploaded imageId) :
    (name, .created imageId) ∈ state.history := by
  subst uploads
  exact sound.cleanup name imageId (step.uploaded (sound.worker name)).1

theorem Sound.createdAfter (creator : Name) (imageId : Nat)
    (created : (creator, .created imageId) ∈ (name, event) :: state.history) :
    imageId < service.nextId := by
  rcases List.mem_cons.mp created with new | earlier
  · obtain ⟨-, rfl⟩ := Prod.mk.injEq .. ▸ new
    obtain ⟨-, next, -⟩ := step.created
    exact next ▸ Nat.lt_succ_self _
  · exact Nat.lt_of_lt_of_le (sound.created creator imageId earlier) step.nextId_le

theorem Sound.ownerAfter (creator other : Name) (imageId : Nat)
    (created : (creator, .created imageId) ∈ (name, event) :: state.history)
    (again : (other, .created imageId) ∈ (name, event) :: state.history) : creator = other := by
  have unseen (earlierCreator : Name) (creates : event = .created imageId) :
      (earlierCreator, .created imageId) ∉ state.history := by
    intro earlier
    subst creates
    exact absurd (step.created.1 ▸ sound.created _ _ earlier) (Nat.lt_irrefl _)
  rcases List.mem_cons.mp created with new | earlier
  · rcases List.mem_cons.mp again with newAgain | earlierAgain
    · exact congrArg Prod.fst (new.trans newAgain.symm)
    · exact absurd earlierAgain (unseen other (congrArg Prod.snd new).symm)
  · rcases List.mem_cons.mp again with newAgain | earlierAgain
    · exact absurd earlier (unseen creator (congrArg Prod.snd newAgain).symm)
    · exact sound.owner creator other imageId earlier earlierAgain

theorem Sound.uploadedAfter (uploader : Name) (imageId : Nat)
    (uploaded : (uploader, .uploaded imageId) ∈ (name, event) :: state.history) :
    imageId < service.nextId ∧
      ∀ image ∈ service.images, image.id = imageId → image.status = .active := by
  rcases List.mem_cons.mp uploaded with new | earlier
  · obtain ⟨rfl, rfl⟩ := Prod.mk.injEq .. ▸ new
    obtain ⟨-, -, -, active⟩ := step.uploaded (sound.worker uploader)
    refine ⟨service.fresh _ active, fun image present equal => ?_⟩
    rw [ImageService.eq_of_id present active equal]
  · obtain ⟨lower, activeBefore⟩ := sound.uploaded uploader imageId earlier
    refine ⟨Nat.lt_of_lt_of_le lower step.nextId_le, fun image present equal => ?_⟩
    rcases step.old_image present (equal ▸ lower) with before | ⟨status, changing, before⟩
    · exact activeBefore image before equal
    · have active : status = .active := activeBefore _ before equal
      rw [active] at changing
      exact absurd changing (by decide)

theorem Sound.activeAfter (creator : Name) (image : Image)
    (present : image ∈ service.images) (active : image.status = .active)
    (created : (creator, .created image.id) ∈ (name, event) :: state.history) :
    (creator, .uploaded image.id) ∈ (name, event) :: state.history := by
  rcases step.image_before present with ⟨-, rfl⟩ | before | ⟨status, -, before, uploads⟩
  · cases active
  · rcases List.mem_cons.mp created with new | earlier
    · obtain ⟨-, rfl⟩ := Prod.mk.injEq .. ▸ new
      exact absurd (step.created.1 ▸ state.shared.fresh image before) (Nat.lt_irrefl _)
    · exact List.mem_cons_of_mem _ (sound.active creator image before active earlier)
  · have ended := uploads active
    have mine := sound.creator step ended
    subst ended
    rcases List.mem_cons.mp created with new | earlier
    · cases new
    · obtain rfl := sound.owner _ _ _ earlier mine
      exact List.mem_cons_self

theorem Sound.deletedAfter (deleter : Name) (imageId : Nat)
    (deleted : (deleter, .deleted imageId) ∈ (name, event) :: state.history) :
    imageId < service.nextId ∧ ∀ image ∈ service.images, image.id ≠ imageId := by
  rcases List.mem_cons.mp deleted with new | earlier
  · obtain ⟨rfl, rfl⟩ := Prod.mk.injEq .. ▸ new
    obtain ⟨place, gone⟩ := step.deleted
    refine ⟨Nat.lt_of_lt_of_le ?_ step.nextId_le, gone⟩
    rcases place with deleting | ⟨left, -⟩
    · have known := sound.worker deleter
      rw [Worker.Sound, deleting] at known
      obtain ⟨image, cached, rfl, -⟩ := known
      exact (sound.snapshot deleter image cached).1
    · exact sound.created deleter imageId (sound.cleanup deleter imageId left)
  · obtain ⟨lower, goneBefore⟩ := sound.deleted deleter imageId earlier
    refine ⟨Nat.lt_of_lt_of_le lower step.nextId_le, fun image present equal => ?_⟩
    rcases step.old_image present (equal ▸ lower) with before | ⟨status, -, before⟩
    · exact goneBefore image before equal
    · exact goneBefore _ before equal

end Moved

variable [DecidableEq Name]

section Moved

variable (sound : Sound state)
  (step : Step event (state.workers name, state.shared) (worker, service))

include sound step

theorem Sound.snapshotAfter (holder : Name) (image : Image)
    (cached : ((state.moved name event worker service).workers holder).image = some image) :
    image.id < service.nextId ∧ (image.status ∉ changingStatus →
      ∀ current ∈ service.images, current.id = image.id → current = image) := by
  have known : image.id < state.shared.nextId ∧ (image.status ∉ changingStatus →
      ∀ current ∈ state.shared.images, current.id = image.id → current = image) := by
    refine Workers.forall_moved (fun _ (worker : Worker) => ∀ image,
      worker.image = some image → image.id < state.shared.nextId ∧ (image.status ∉ changingStatus →
        ∀ current ∈ state.shared.images, current.id = image.id → current = image))
      (fun image cached => ?_) (fun other _ => sound.snapshot other) holder image cached
    rcases step.snapshot cached with earlier | listed
    · exact sound.snapshot name image earlier
    · exact ⟨state.shared.fresh image listed,
        fun _ current present equal => ImageService.eq_of_id present listed equal⟩
  refine ⟨Nat.lt_of_lt_of_le known.1 step.nextId_le, fun final current present equal => ?_⟩
  rcases step.old_image present (equal ▸ known.1) with earlier | ⟨status, changing, earlier⟩
  · exact known.2 final current earlier equal
  · -- An image that changes is no image whose final status is known.
    have same := known.2 final _ earlier equal
    rw [← same] at final
    exact absurd changing final

theorem Sound.cleanupAfter : ∀ holder, ∀ imageId ∈
    ((state.moved name event worker service).workers holder).cleanupImageIds,
      (holder, .created imageId) ∈ (name, event) :: state.history := by
  refine Workers.forall_moved (fun holder (worker : Worker) => ∀ imageId ∈ worker.cleanupImageIds,
    (holder, Event.created imageId) ∈ (name, event) :: state.history) ?_ ?_
  · intro imageId left
    rcases step.cleanup_before left with earlier | rfl
    · exact List.mem_cons_of_mem _ (sound.cleanup name imageId earlier)
    · exact List.mem_cons_self
  · intro other _ imageId left
    exact List.mem_cons_of_mem _ (sound.cleanup other imageId left)

theorem Sound.moved : Sound (state.moved name event worker service) where
  worker := Workers.forall_moved (fun _ => Worker.Sound) (step.sound (sound.worker name))
    fun other _ => sound.worker other
  snapshot := sound.snapshotAfter step
  created := sound.createdAfter step
  owner := sound.ownerAfter step
  cleanup := sound.cleanupAfter step
  uploaded := sound.uploadedAfter step
  active := sound.activeAfter step
  deleted := sound.deletedAfter step

end Moved

/-! ### What a call leaves behind -/

theorem mem_createdIds_cons {holder : Name} {history : History Name} {imageId : Nat}
    (created : imageId ∈ createdIds holder ((name, event) :: history)) :
    (holder = name ∧ event = .created imageId) ∨
      (imageId ∈ createdIds holder history ∧ ¬ (holder = name ∧ event = .called)) := by
  cases event with
  | called =>
      simp only [createdIds] at created
      split at created
      · cases created
      · rename_i different
        exact .inr ⟨created, fun both => different both.1.symm⟩
  | created newId =>
      simp only [createdIds] at created
      split at created
      · rename_i same
        rcases List.mem_cons.mp created with rfl | earlier
        · exact .inl ⟨same.symm, rfl⟩
        · exact .inr ⟨earlier, fun both => by cases both.2⟩
      · exact .inr ⟨created, fun both => by cases both.2⟩
  | observed | uploaded | deleted | ended | internal =>
      exact .inr ⟨created, fun both => by cases both.2⟩

/-- Each image that a call has created is in its cleanup set, or about to be returned,
or deleted. -/
def Worker.Accounts (worker : Worker) (name : Name) (history : History Name) : Prop :=
  worker.phase ≠ .idle → ∀ imageId ∈ createdIds name history,
    imageId ∈ worker.cleanupImageIds ∨
      (∃ image, worker.phase = .cleaning (.returned (some image)) ∧ image.id = imageId) ∨
      ∃ deleter, (deleter, .deleted imageId) ∈ history

def Accounted (state : State Name) : Prop :=
  ∀ name, (state.workers name).Accounts name state.history

theorem Accounted.moved (accounted : Accounted state)
    (step : Step event (state.workers name, state.shared) (worker, service)) :
    Accounted (state.moved name event worker service) := by
  refine Workers.forall_moved (fun holder (worker : Worker) =>
    worker.Accounts holder ((name, event) :: state.history)) ?_ ?_
  · intro busy imageId created
    rcases mem_createdIds_cons created with ⟨-, rfl⟩ | ⟨earlier, inCall⟩
    · exact .inl step.created.2.2.1
    · have notCalled : event ≠ .called := fun called => inCall ⟨rfl, called⟩
      have wasBusy : (state.workers name).phase ≠ .idle := fun idle =>
        notCalled (step.called idle)
      rcases accounted name wasBusy imageId earlier with
        left | ⟨image, cleaning, equal⟩ | ⟨deleter, deleted⟩
      · rcases step.cleanup_after left with called | rfl | stays | returning
        · exact absurd called notCalled
        · exact .inr (.inr ⟨name, List.mem_cons_self⟩)
        · exact .inl stays
        · exact .inr (.inl returning)
      · rcases step.cleaning cleaning with cleans | rfl
        · exact .inr (.inl ⟨image, cleans, equal⟩)
        · exact absurd step.ended.2.2 busy
      · exact .inr (.inr ⟨deleter, List.mem_cons_of_mem _ deleted⟩)
  · intro other different busy imageId created
    have earlier : imageId ∈ createdIds other state.history := by
      rcases mem_createdIds_cons created with ⟨impossible, -⟩ | ⟨earlier, -⟩
      · exact absurd impossible different
      · exact earlier
    rcases accounted other busy imageId earlier with left | returning | ⟨deleter, deleted⟩
    · exact .inl left
    · exact .inr (.inl returning)
    · exact .inr (.inr ⟨deleter, List.mem_cons_of_mem _ deleted⟩)

/-- When the call ends, its cleanup set is empty. -/
theorem Accounted.ended (accounted : Accounted state)
    (step : Step event (state.workers name, state.shared) (worker, service))
    (outcome : Outcome) (ends : event = .ended outcome) (imageId : Nat)
    (created : imageId ∈ createdIds name state.history) :
    (∃ image, outcome = .returned (some image) ∧ image.id = imageId) ∨
      ∃ deleter, (deleter, .deleted imageId) ∈ state.history := by
  subst ends
  obtain ⟨cleaning, cleaned, -⟩ := step.ended
  have busy : (state.workers name).phase ≠ .idle := by
    rw [cleaning]
    exact fun impossible => by cases impossible
  rcases accounted name busy imageId created with left | ⟨image, returning, equal⟩ | deleted
  · rw [cleaned] at left
    exact absurd left (Finset.notMem_empty _)
  · rw [cleaning, Phase.cleaning.injEq] at returning
    exact .inl ⟨image, returning, equal⟩
  · exact .inr deleted

/-! ### What is kept while no worker gives up an upload -/

/-- What else holds in every run whose steps keep uploads: images that were seen active
are still there, and a worker with an uploaded image waits for it. -/
structure Kept (state : State Name) : Prop where
  sound : Sound state
  present : ∀ name image, (state.workers name).image = some image → image.status = .active →
    image ∈ state.shared.images
  returned : ∀ name image, (name, .ended (.returned (some image))) ∈ state.history →
    image.status = .active ∧ image ∈ state.shared.images
  awaits : ∀ name, ∀ imageId ∈ (state.workers name).cleanupImageIds,
    (name, .uploaded imageId) ∈ state.history → (state.workers name).Awaits imageId

omit [DecidableEq Name] in
theorem Kept.start (fixtures : Name → UploadGlanceImageFixture) (service : ImageService) :
    Kept (start fixtures service) where
  sound := .start fixtures service
  present _ _ impossible := by cases impossible
  returned _ _ impossible := by cases impossible
  awaits _ _ impossible := absurd impossible (Finset.notMem_empty _)

section Moved

variable (kept : Kept state)
  (step : Step event (state.workers name, state.shared) (worker, service))

include kept step

omit [DecidableEq Name] in
/-- No step deletes an active image. -/
theorem Kept.inactive {image : Image} (present : image ∈ state.shared.images)
    (deletes : event = .deleted image.id) : image.status ≠ .active := by
  subst deletes
  intro active
  rcases step.deleted.1 with deleting | ⟨left, outcome, cleaning⟩
  · -- The worker has seen the image in another status, which was final.
    have known := kept.sound.worker name
    rw [Worker.Sound, deleting] at known
    obtain ⟨seen, cached, equal, final, inactive⟩ := known
    have same := (kept.sound.snapshot name seen cached).2 final image present equal.symm
    exact inactive (same ▸ active)
  · -- The worker has uploaded the image, and a worker that has waits for it.
    have created := kept.sound.cleanup name image.id left
    have uploaded := kept.sound.active name image present active created
    rcases kept.awaits name image.id left uploaded with elsewhere | ⟨elsewhere, -⟩ <;>
    · rw [cleaning] at elsewhere
      cases elsewhere

omit [DecidableEq Name] in
theorem Kept.stays {image : Image} (present : image ∈ state.shared.images)
    (active : image.status = .active) : image ∈ service.images := by
  have final : image.status ∉ changingStatus := by
    rw [active]
    decide
  rcases step.image_after present final with deletes | later
  · exact absurd active (kept.inactive step present deletes)
  · exact later

theorem Kept.presentAfter (holder : Name) (image : Image)
    (cached : ((state.moved name event worker service).workers holder).image = some image)
    (active : image.status = .active) : image ∈ service.images := by
  refine kept.stays step (Workers.forall_moved (fun _ (worker : Worker) => ∀ image,
    worker.image = some image → image.status = .active → image ∈ state.shared.images)
    (fun image cached active => ?_) (fun other _ => kept.present other) holder image cached
    active) active
  rcases step.snapshot cached with earlier | listed
  · exact kept.present name image earlier active
  · exact listed

omit [DecidableEq Name] in
theorem Kept.returnedAfter (returner : Name) (image : Image)
    (returned : (returner, .ended (.returned (some image))) ∈ (name, event) :: state.history) :
    image.status = .active ∧ image ∈ service.images := by
  have known : image.status = .active ∧ image ∈ state.shared.images := by
    rcases List.mem_cons.mp returned with new | earlier
    · obtain ⟨rfl, rfl⟩ := Prod.mk.injEq .. ▸ new
      have cached := kept.sound.worker returner
      rw [Worker.Sound, step.ended.1] at cached
      exact ⟨cached.2, kept.present returner image cached.1 cached.2⟩
    · exact kept.returned returner image earlier
  exact ⟨known.1, kept.stays step known.2 known.1⟩

theorem Kept.awaitsAfter (keeps : KeepsUploads state name event) : ∀ holder, ∀ imageId ∈
    ((state.moved name event worker service).workers holder).cleanupImageIds,
      (holder, .uploaded imageId) ∈ (name, event) :: state.history →
        ((state.moved name event worker service).workers holder).Awaits imageId := by
  refine Workers.forall_moved (fun holder (worker : Worker) => ∀ imageId ∈ worker.cleanupImageIds,
    (holder, Event.uploaded imageId) ∈ (name, event) :: state.history →
      worker.Awaits imageId) ?_ ?_
  · intro imageId left uploaded
    rcases List.mem_cons.mp uploaded with new | earlier
    · obtain ⟨-, rfl⟩ := Prod.mk.injEq .. ▸ new
      exact .inl (step.uploaded (kept.sound.worker name)).2.2.1
    · obtain ⟨lower, active⟩ := kept.sound.uploaded name imageId earlier
      rcases step.cleanup_before left with before | rfl
      · refine step.awaits (kept.awaits name imageId before earlier) left ?_
        rintro answer rfl
        rcases keeps imageId before earlier with changing | ⟨image, rfl, rfl⟩
        · exact .inl changing
        · -- The worker finds the image that it has uploaded, which is active.
          have found : some image = state.shared.findImage := step.observed
          have status := active image (ImageService.mem_of_findImage found.symm) rfl
          exact .inr (by rw [← status])
      · exact absurd (step.created.1 ▸ lower) (Nat.lt_irrefl _)
  · intro other different imageId left uploaded
    rcases List.mem_cons.mp uploaded with new | earlier
    · exact absurd (congrArg Prod.fst new) different
    · exact kept.awaits other imageId left earlier

theorem Kept.moved (keeps : KeepsUploads state name event) :
    Kept (state.moved name event worker service) where
  sound := kept.sound.moved step
  present := kept.presentAfter step
  returned := kept.returnedAfter step
  awaits := kept.awaitsAfter step keeps

omit [DecidableEq Name] in
/-- A returned image is still active, and no step deletes an active image. -/
theorem Kept.unreturned (imageId : Nat) (deletes : event = .deleted imageId) (other : Name)
    (image : Image) (returned : (other, .ended (.returned (some image))) ∈ state.history)
    (equal : image.id = imageId) : other = name := by
  obtain ⟨active, present⟩ := kept.returned other image returned
  exact absurd active (kept.inactive step present (equal ▸ deletes))

end Moved

variable {allowed : State Name → Name → Event → Prop}
  {fixtures : Name → UploadGlanceImageFixture} {initial : ImageService}

theorem accounted_of_reachable (reachable : Reachable allowed fixtures initial state) :
    Accounted state :=
  reachable.invariant (fun _ busy => absurd rfl busy)
    fun _ _ _ _ _ accounted _ step => accounted.moved step

/-- **No leftovers.** In every run, a call that ends has deleted each image that it
created and does not return. -/
theorem leftovers_deleted (reachable : Reachable allowed fixtures initial state) :
    LeftoversDeleted state.history :=
  reachable.inOrder rfl (fun _ earlier => accounted_of_reachable earlier)
    fun _ _ _ _ _ accounted _ step => accounted.ended step

theorem kept_of_reachable (reachable : Reachable KeepsUploads fixtures initial state) :
    Kept state :=
  reachable.invariant (.start fixtures initial)
    fun _ _ _ _ _ kept keeps step => kept.moved step keeps

theorem returned_kept (reachable : Reachable KeepsUploads fixtures initial state) :
    ReturnedKept state.history :=
  reachable.inOrder rfl (fun _ earlier => kept_of_reachable earlier)
    fun _ _ _ _ _ kept _ step => kept.unreturned step

/-- **Images in use are kept.** In every run in which no worker gives up an image that it
has uploaded, no worker deletes an image that another one has returned, and a call that
ends has deleted each image that it created and does not return. -/
theorem created_images_kept (reachable : Reachable KeepsUploads fixtures initial state) :
    ReturnedKept state.history ∧ LeftoversDeleted state.history ∧
      ∀ name imageId, (name, .deleted imageId) ∈ state.history →
        ∀ image ∈ state.shared.images, image.id ≠ imageId :=
  ⟨returned_kept reachable, leftovers_deleted reachable,
    fun name imageId deleted => ((kept_of_reachable reachable).sound.deleted name imageId
      deleted).2⟩

end Workers

/-! ### Two runs -/

/-- A fixture with the defaults of its class. -/
def defaultFixture : UploadGlanceImageFixture := ⟨none, false⟩

/-- One worker creates and uploads the image. The other one, whose own upload fails, deletes what it
has created, and returns the image of the first one when it calls again. -/
theorem created_images_kept_both : ∃ state : State (Fin 2),
    (0, .ended (.returned (some ⟨0, .active⟩))) ∈ state.history ∧
      (1, .ended (.returned (some ⟨0, .active⟩))) ∈ state.history ∧
      (1, .deleted 1) ∈ state.history ∧
      ReturnedKept state.history ∧ LeftoversDeleted state.history := by
  have start : Reachable KeepsUploads (fun _ : Fin 2 => defaultFixture) .empty
      (start (fun _ => defaultFixture) .empty) := .refl
  -- Both workers find no image.
  have s1 := start.next 0 (.call _ _ none rfl) trivial
  have s2 := s1.next 0 (.poll _ _ .gettingActive rfl) (keepsUploads_of_cleaned rfl)
  have s3 := s2.next 0 (.resume _ _ .gettingActive rfl) trivial
  have s4 := s3.next 1 (.call _ _ none rfl) trivial
  have s5 := s4.next 1 (.poll _ _ .gettingActive rfl) (keepsUploads_of_cleaned rfl)
  have s6 := s5.next 1 (.resume _ _ .gettingActive rfl) trivial
  -- The first one creates one, uploads it and returns it.
  have s7 := s6.next 0 (.create _ _ rfl) trivial
  have s8 := s7.next 0 (.poll _ _ .gettingActive rfl) fun _ _ _ => .inl rfl
  have s9 := s8.next 0 (.resume _ _ .gettingActive rfl) trivial
  have s10 := s9.next 0 (.uploadStarts _ _ 0 rfl) trivial
  have s11 := s10.next 0 (.uploads _ _ 0 rfl (by decide)) trivial
  have s12 := s11.next 0 (.poll _ _ .active rfl) fun imageId left _ => by
    have only : imageId ∈ insert 0 (∅ : Finset Nat) := left
    exact .inr ⟨⟨0, .active⟩, rfl, by simpa [eq_comm] using only⟩
  have s13 := s12.next 0 (.resume _ _ .active rfl) trivial
  have s14 := s13.next 0 (.finish _ _ (.returned (some ⟨0, .active⟩)) rfl rfl) trivial
  -- The second one creates another one, and its upload fails.
  have s15 := s14.next 1 (.create _ _ rfl) trivial
  have s16 := s15.next 1 (.poll _ _ .gettingActive rfl) fun _ _ _ => .inl rfl
  have s17 := s16.next 1 (.resume _ _ .gettingActive rfl) trivial
  have s18 := s17.next 1 (.dataFails _ _ 1 rfl) trivial
  have s19 := s18.next 1 (.clean _ _ .raised 1 rfl (by decide)) trivial
  have s20 := s19.next 1 (.finish _ _ .raised rfl (by decide)) trivial
  -- It calls again, waits for the image that it has cached, and finds the one of the first one.
  have s21 := s20.next 1 (.call _ _ none rfl) trivial
  have s22 := s21.next 1 (.resume _ _ .gettingActive rfl) trivial
  have s23 := s22.next 1 (.poll _ _ .active rfl) (keepsUploads_of_cleaned (by decide))
  have s24 := s23.next 1 (.resume _ _ .active rfl) trivial
  have s25 := s24.next 1 (.finish _ _ (.returned (some ⟨0, .active⟩)) rfl rfl) trivial
  have images := created_images_kept s25
  exact ⟨_, by decide, by decide, by decide, images.1, images.2.1⟩

/-! The three workers of a run that deletes an image in use: the first one uploads an image
that the third one returns, and then finds the image of the second one. -/

/-- A worker returns an image, and the worker that uploaded it deletes it. -/
theorem adopted_image_deleted :
    ¬ ∀ (fixtures : Fin 3 → UploadGlanceImageFixture) (initial : ImageService)
      (state : State (Fin 3)),
      (∀ name, (fixtures name).preventImageCreate = false) →
      Reachable (fun _ _ _ => True) fixtures initial state →
        ReturnedKept state.history ∧ LeftoversDeleted state.history := by
  intro kept
  have start : Reachable (fun _ _ _ => True) (fun _ : Fin 3 => defaultFixture) .empty
      (start (fun _ => defaultFixture) .empty) := .refl
  -- The first two workers find no image, and the first one creates and uploads one.
  have s1 := start.next 0 (.call _ _ none rfl) trivial
  have s2 := s1.next 0 (.poll _ _ .gettingActive rfl) trivial
  have s3 := s2.next 0 (.resume _ _ .gettingActive rfl) trivial
  have s4 := s3.next 1 (.call _ _ none rfl) trivial
  have s5 := s4.next 1 (.poll _ _ .gettingActive rfl) trivial
  have s6 := s5.next 1 (.resume _ _ .gettingActive rfl) trivial
  have s7 := s6.next 0 (.create _ _ rfl) trivial
  have s8 := s7.next 0 (.poll _ _ .gettingActive rfl) trivial
  have s9 := s8.next 0 (.resume _ _ .gettingActive rfl) trivial
  have s10 := s9.next 0 (.uploadStarts _ _ 0 rfl) trivial
  have s11 := s10.next 0 (.uploads _ _ 0 rfl (by decide)) trivial
  -- The third worker returns this image.
  have s12 := s11.next 2 (.call _ _ none rfl) trivial
  have s13 := s12.next 2 (.poll _ _ .gettingActive rfl) trivial
  have s14 := s13.next 2 (.resume _ _ .gettingActive rfl) trivial
  have s15 := s14.next 2 (.resume _ _ .active rfl) trivial
  have s16 := s15.next 2 (.finish _ _ (.returned (some ⟨0, .active⟩)) rfl rfl) trivial
  -- The second worker creates and uploads another one, which the first worker finds.
  have s17 := s16.next 1 (.create _ _ rfl) trivial
  have s18 := s17.next 1 (.poll _ _ .gettingActive rfl) trivial
  have s19 := s18.next 1 (.resume _ _ .gettingActive rfl) trivial
  have s20 := s19.next 1 (.uploadStarts _ _ 1 rfl) trivial
  have s21 := s20.next 1 (.uploads _ _ 1 rfl (by decide)) trivial
  have s22 := s21.next 0 (.poll _ _ .active rfl) trivial
  have s23 := s22.next 0 (.resume _ _ .active rfl) trivial
  have s24 := s23.next 0 (.clean _ _ (.returned (some ⟨1, .active⟩)) 0 rfl (by decide)) trivial
  have same := (kept _ _ _ (fun _ => rfl) s24).1 0 (.deleted 0) _ (List.suffix_refl _) 0 rfl 2
    ⟨0, .active⟩ (by decide) rfl
  cases same

end Tobiko.Openstack.Glance
