import Mathlib.Data.List.Nodup
import Tobiko.Openstack.Glance.ImageCreation

/-!
Contract: what one step of a call of `create_image` can do.

Owns: what each request changes of the images, what is known of a worker at each
place of its call (`Worker.Sound`), and for every step where its images, its
snapshot and its cleanup set come from.

Does not own: what several workers do to each other.
-/

namespace Tobiko.Openstack.Glance

/-! ### The images -/

namespace ImageService

variable {service : ImageService} {image left right : Image} {imageId : Nat}
  {before after : GlanceImageStatus}

theorem eq_of_id (isLeft : left ∈ service.images) (isRight : right ∈ service.images)
    (same : left.id = right.id) : left = right := by
  have apart : (service.images.map (·.id)).Nodup :=
    List.pairwise_map.mpr (service.ordered.imp Nat.ne_of_gt)
  exact List.inj_on_of_nodup_map apart isLeft isRight same

theorem mem_of_findImage (found : service.findImage = some image) : image ∈ service.images :=
  List.mem_of_mem_head? found

theorem mem_createImage : image ∈ service.createImage.images ↔
    image = ⟨service.nextId, .queued⟩ ∨ image ∈ service.images :=
  List.mem_cons

theorem mem_deleteImage : image ∈ (service.deleteImage imageId).images ↔
    image ∈ service.images ∧ image.id ≠ imageId := by
  simp [deleteImage]

theorem mem_changeStatus : image ∈ (service.changeStatus imageId before after).images ↔
    (image ∈ service.images ∧ ¬ (image.id = imageId ∧ image.status = before)) ∨
      (image = ⟨imageId, after⟩ ∧ ⟨imageId, before⟩ ∈ service.images) := by
  simp only [changeStatus, List.mem_map]
  constructor
  · rintro ⟨earlier, present, rfl⟩
    split
    · rename_i changes
      obtain ⟨rfl, rfl⟩ := changes
      exact .inr ⟨rfl, present⟩
    · rename_i stays
      exact .inl ⟨present, stays⟩
  · rintro (⟨present, stays⟩ | ⟨rfl, present⟩)
    · exact ⟨image, present, if_neg stays⟩
    · exact ⟨⟨imageId, before⟩, present, by simp⟩

end ImageService

/-! ### One worker -/

namespace Worker

/-- What holds of a worker at its place. -/
def Sound (worker : Worker) : Prop :=
  match worker.phase with
  | .waited wait => keepsWaiting wait worker.image = false
  | .deleting imageId => ∃ image, worker.image = some image ∧ image.id = imageId ∧
      image.status ∉ changingStatus ∧ image.status ≠ .active
  | .uploading imageId | .saving imageId =>
      imageId ∈ worker.cleanupImageIds ∧ worker.image = some ⟨imageId, .queued⟩
  | .cleaning (.returned result) => worker.image = result ∧ imageStatus result = .active
  | _ => True

section Transitions

variable {worker : Worker} {wait : Wait} {answer : Option Image} {image : Image}

theorem raises_sound : worker.raises.Sound := trivial

theorem waits_sound : (worker.waits wait).Sound := by
  unfold waits
  split
  · trivial
  · rename_i stops
    simp only [Bool.or_eq_true, not_or, Bool.not_eq_true] at stops
    exact stops.2

theorem observes_sound : (worker.observes wait answer).Sound := by
  unfold observes Sound
  cases keeps : keepsWaiting wait answer with
  | true => trivial
  | false => exact keeps

theorem loops_sound : worker.loops.Sound := by
  unfold loops
  split
  · exact waits_sound
  · exact raises_sound

theorem breaks_sound (cached : worker.image = some image) : (worker.breaks image).Sound := by
  unfold breaks
  split
  · rename_i created
    unfold uploadImage
    split
    · rename_i queued
      refine ⟨created, cached.trans ?_⟩
      rw [← queued]
    · exact raises_sound
  · exact waits_sound

/-- The image that `create_image` deletes before it creates another one will not
change any more. -/
theorem retry_sound (stops : keepsWaiting .gettingActive worker.image = false)
    (inactive : isImageGettingActive worker.image = false) : worker.retry.Sound := by
  unfold retry
  split
  · exact loops_sound
  · split
    · rename_i image cached
      rw [cached] at stops inactive
      have unexpected : image.status ∉ gettingActiveStatus := by
        simpa [isImageGettingActive] using inactive
      have final : image.status ∉ changingStatus := by
        simpa [keepsWaiting, isImageStatusChanging, imageStatus, Wait.expectedStatus,
          unexpected] using stops
      refine ⟨image, cached, rfl, final, ?_⟩
      intro active
      rw [active] at unexpected
      exact unexpected (by decide)
    · trivial

theorem resumes_sound (stops : keepsWaiting wait worker.image = false) :
    (worker.resumes wait).Sound := by
  unfold resumes
  split
  · exact raises_sound
  · rename_i passes
    cases wait with
    | gettingActive =>
        simp only [continues]
        split
        · rename_i image cached
          split
          · exact breaks_sound cached
          · rename_i inactive
            exact retry_sound stops (by simpa [cached] using inactive)
        · rename_i cached
          exact retry_sound stops (by rw [cached]; rfl)
    | deleted => trivial
    | active =>
        refine ⟨rfl, ?_⟩
        simpa [checks, Wait.expectedStatus] using passes

end Transitions

/-! ### The cached image and the cleanup set -/

section Fields

variable (worker : Worker) (wait : Wait) (answer : Option Image) (image : Image)
  (requested : Option Int)

@[simp] theorem waits_image : (worker.waits wait).image = worker.image := by
  unfold waits
  split <;> rfl

@[simp] theorem waits_cleanupImageIds :
    (worker.waits wait).cleanupImageIds = worker.cleanupImageIds := by
  unfold waits
  split <;> rfl

@[simp] theorem loops_image : worker.loops.image = worker.image := by
  unfold loops
  split
  · exact waits_image ..
  · rfl

@[simp] theorem loops_cleanupImageIds :
    worker.loops.cleanupImageIds = worker.cleanupImageIds := by
  unfold loops
  split
  · exact waits_cleanupImageIds ..
  · rfl

@[simp] theorem createImage_image : (worker.createImage requested).image = worker.image := by
  simp [createImage]

@[simp] theorem createImage_cleanupImageIds :
    (worker.createImage requested).cleanupImageIds = ∅ := by
  simp [createImage]

theorem breaks_fields : (worker.breaks image).image = worker.image ∧
    (worker.breaks image).cleanupImageIds = worker.cleanupImageIds := by
  unfold breaks
  split
  · unfold uploadImage
    split <;> exact ⟨rfl, rfl⟩
  · exact ⟨waits_image .., waits_cleanupImageIds ..⟩

theorem retry_fields : worker.retry.image = worker.image ∧
    worker.retry.cleanupImageIds = worker.cleanupImageIds := by
  unfold retry
  split
  · exact ⟨loops_image .., loops_cleanupImageIds ..⟩
  · split <;> exact ⟨rfl, rfl⟩

/-- A call that goes on after a wait keeps its created images, but for the one it returns. -/
theorem resumes_fields :
    ((worker.resumes wait).image = worker.image ∨ (worker.resumes wait).image = none) ∧
      ((worker.resumes wait).cleanupImageIds = worker.cleanupImageIds ∨
        (wait = .active ∧ worker.resumes wait = worker.returns)) := by
  unfold resumes
  split
  · exact ⟨.inl rfl, .inl rfl⟩
  · cases wait with
    | gettingActive =>
        simp only [continues]
        split
        · split
          · exact ⟨.inl (breaks_fields ..).1, .inl (breaks_fields ..).2⟩
          · exact ⟨.inl (retry_fields ..).1, .inl (retry_fields ..).2⟩
        · exact ⟨.inl (retry_fields ..).1, .inl (retry_fields ..).2⟩
    | deleted => exact ⟨.inr rfl, .inl rfl⟩
    | active => exact ⟨.inl rfl, .inr ⟨rfl, rfl⟩⟩

end Fields

end Worker

/-! ### One step -/

section Step

variable {event : Event} {worker next : Worker} {service nextService : ImageService}
  {image : Image} {imageId : Nat}

theorem Step.sound (step : Step event (worker, service) (next, nextService))
    (sound : worker.Sound) : next.Sound := by
  cases step with
  | call _ _ requested idle => exact Worker.loops_sound
  | poll _ _ wait polling => exact Worker.observes_sound
  | resume _ _ wait waited =>
      refine Worker.resumes_sound ?_
      rwa [Worker.Sound, waited] at sound
  | delete _ _ imageId deleting => exact Worker.waits_sound
  | create _ _ creating => exact Worker.loops_sound
  | dataFails _ _ imageId uploading => exact Worker.raises_sound
  | uploadStarts _ _ imageId uploading => rwa [Worker.Sound, uploading] at sound
  | uploads _ _ imageId saving present => exact Worker.waits_sound
  | uploadFails _ _ imageId status saving inactive => exact Worker.raises_sound
  | clean _ _ outcome imageId cleaning left =>
      rw [Worker.Sound, cleaning] at sound
      rw [Worker.Sound, cleaning]
      cases outcome with
      | returned result => exact sound
      | raised => trivial
  | finish _ _ outcome cleaning cleaned => trivial

/-- An image that is there after a step is new, or was there, or its upload went on. -/
theorem Step.image_before (step : Step event (worker, service) (next, nextService))
    (present : image ∈ nextService.images) :
    (event = .created image.id ∧ image = ⟨service.nextId, .queued⟩) ∨ image ∈ service.images ∨
      ∃ status ∈ changingStatus, ⟨image.id, status⟩ ∈ service.images ∧
        (image.status = .active → event = .uploaded image.id) := by
  cases step with
  | call | poll | resume | dataFails | finish => exact .inr (.inl present)
  | delete | clean => exact .inr (.inl (ImageService.mem_deleteImage.mp present).1)
  | create _ _ creating =>
      rcases ImageService.mem_createImage.mp present with rfl | earlier
      · exact .inl ⟨rfl, rfl⟩
      · exact .inr (.inl earlier)
  | uploadStarts _ _ imageId uploading =>
      rcases ImageService.mem_changeStatus.mp present with ⟨earlier, -⟩ | ⟨rfl, earlier⟩
      · exact .inr (.inl earlier)
      · exact .inr (.inr ⟨_, by decide, earlier, fun active => by cases active⟩)
  | uploads _ _ imageId saving =>
      rcases ImageService.mem_changeStatus.mp present with ⟨earlier, -⟩ | ⟨rfl, earlier⟩
      · exact .inr (.inl earlier)
      · exact .inr (.inr ⟨_, by decide, earlier, fun _ => rfl⟩)
  | uploadFails _ _ imageId status saving inactive =>
      rcases ImageService.mem_changeStatus.mp present with ⟨earlier, -⟩ | ⟨rfl, earlier⟩
      · exact .inr (.inl earlier)
      · exact .inr (.inr ⟨_, by decide, earlier, fun active => absurd active inactive⟩)

/-- An image with an older id was there before the step, at most in another status. -/
theorem Step.old_image (step : Step event (worker, service) (next, nextService))
    (present : image ∈ nextService.images) (older : image.id < service.nextId) :
    image ∈ service.images ∨
      ∃ status ∈ changingStatus, ⟨image.id, status⟩ ∈ service.images := by
  rcases step.image_before present with ⟨-, rfl⟩ | before | ⟨status, changing, before, -⟩
  · exact absurd older (Nat.lt_irrefl _)
  · exact .inl before
  · exact .inr ⟨status, changing, before⟩

/-- An image whose status does not change any more stays until it is deleted. -/
theorem Step.image_after (step : Step event (worker, service) (next, nextService))
    (present : image ∈ service.images) (final : image.status ∉ changingStatus) :
    event = .deleted image.id ∨ image ∈ nextService.images := by
  have settled (imageId : Nat) {before : GlanceImageStatus} (after : GlanceImageStatus)
      (changing : before ∈ changingStatus) :
      image ∈ (service.changeStatus imageId before after).images := by
    refine ImageService.mem_changeStatus.mpr (.inl ⟨present, ?_⟩)
    rintro ⟨-, rfl⟩
    exact final changing
  cases step with
  | call | poll | resume | dataFails | finish => exact .inr present
  | create => exact .inr (ImageService.mem_createImage.mpr (.inr present))
  | delete _ _ imageId | clean _ _ _ imageId =>
      by_cases same : image.id = imageId
      · exact .inl (same ▸ rfl)
      · exact .inr (ImageService.mem_deleteImage.mpr ⟨present, same⟩)
  | uploadStarts _ _ imageId | uploads _ _ imageId | uploadFails _ _ imageId =>
      exact .inr (settled imageId _ (by decide))

theorem Step.nextId_le (step : Step event (worker, service) (next, nextService)) :
    service.nextId ≤ nextService.nextId := by
  cases step with
  | create => exact Nat.le_succ _
  | _ => exact Nat.le_refl _

theorem Step.observed {answer : Option Image}
    (step : Step (.observed answer) (worker, service) (next, nextService)) :
    answer = service.findImage := by
  cases step with
  | poll => rfl

theorem Step.created (step : Step (.created imageId) (worker, service) (next, nextService)) :
    imageId = service.nextId ∧ nextService.nextId = imageId + 1 ∧
      imageId ∈ next.cleanupImageIds ∧ worker.phase = .creating := by
  cases step with
  | create _ _ creating => exact ⟨rfl, rfl, by simp, creating⟩

/-- An upload that succeeds is of an image that the call has created. -/
theorem Step.uploaded (step : Step (.uploaded imageId) (worker, service) (next, nextService))
    (sound : worker.Sound) :
    imageId ∈ worker.cleanupImageIds ∧ next.cleanupImageIds = worker.cleanupImageIds ∧
      next.phase = .polling .active ∧ ⟨imageId, .active⟩ ∈ nextService.images := by
  cases step with
  | uploads _ _ _ saving present =>
      rw [Worker.Sound, saving] at sound
      refine ⟨sound.1, Worker.waits_cleanupImageIds .., ?_,
        ImageService.mem_changeStatus.mpr (.inr ⟨rfl, present⟩)⟩
      simp [Worker.waits, sound.2, keepsWaiting, imageStatus, isImageStatusChanging,
        Wait.expectedStatus, changingStatus]

theorem Step.deleted (step : Step (.deleted imageId) (worker, service) (next, nextService)) :
    (worker.phase = .deleting imageId ∨
      (imageId ∈ worker.cleanupImageIds ∧ ∃ outcome, worker.phase = .cleaning outcome)) ∧
        ∀ image ∈ nextService.images, image.id ≠ imageId := by
  cases step with
  | delete _ _ _ deleting =>
      exact ⟨.inl deleting, fun image present => (ImageService.mem_deleteImage.mp present).2⟩
  | clean _ _ outcome _ cleaning left =>
      exact ⟨.inr ⟨left, outcome, cleaning⟩,
        fun image present => (ImageService.mem_deleteImage.mp present).2⟩

theorem Step.ended {outcome : Outcome}
    (step : Step (.ended outcome) (worker, service) (next, nextService)) :
    worker.phase = .cleaning outcome ∧ worker.cleanupImageIds = ∅ ∧ next.phase = .idle := by
  cases step with
  | finish _ _ _ cleaning cleaned => exact ⟨cleaning, cleaned, rfl⟩

/-- The cached image is the one that was cached before, or it has just been listed. -/
theorem Step.snapshot (step : Step event (worker, service) (next, nextService))
    (cached : next.image = some image) : worker.image = some image ∨ image ∈ service.images := by
  cases step with
  | call _ _ requested => exact .inl ((Worker.createImage_image ..).symm.trans cached)
  | poll => exact .inr (ImageService.mem_of_findImage cached)
  | resume _ _ wait =>
      rcases (Worker.resumes_fields worker wait).1 with same | none_
      · exact .inl (same.symm.trans cached)
      · rw [none_] at cached
        cases cached
  | delete | uploads => exact .inl ((Worker.waits_image ..).symm.trans cached)
  | create => exact .inl (by simpa using cached)
  | dataFails | uploadStarts | uploadFails | clean | finish => exact .inl cached

theorem Step.cleanup_before (step : Step event (worker, service) (next, nextService))
    (left : imageId ∈ next.cleanupImageIds) :
    imageId ∈ worker.cleanupImageIds ∨ event = .created imageId := by
  cases step with
  | call => simp at left
  | resume _ _ wait =>
      rcases (Worker.resumes_fields worker wait).2 with same | ⟨-, returns⟩
      · exact .inl (same ▸ left)
      · rw [returns, Worker.returns] at left
        cases cached : worker.image with
        | none =>
            rw [cached] at left
            exact .inl left
        | some image =>
            rw [cached] at left
            exact .inl (Finset.mem_of_mem_erase left)
  | delete | uploads => exact .inl (by simpa using left)
  | create =>
      rcases Finset.mem_insert.mp ((Worker.loops_cleanupImageIds _) ▸ left) with rfl | earlier
      · exact .inr rfl
      · exact .inl earlier
  | clean => exact .inl (Finset.mem_of_mem_erase left)
  | poll | dataFails | uploadStarts | uploadFails | finish => exact .inl left

/-- A created image leaves the cleanup set when it is deleted or about to be returned. -/
theorem Step.cleanup_after (step : Step event (worker, service) (next, nextService))
    (left : imageId ∈ worker.cleanupImageIds) :
    event = .called ∨ event = .deleted imageId ∨ imageId ∈ next.cleanupImageIds ∨
      ∃ image, next.phase = .cleaning (.returned (some image)) ∧ image.id = imageId := by
  cases step with
  | call => exact .inl rfl
  | resume _ _ wait =>
      refine .inr (.inr ?_)
      rcases (Worker.resumes_fields worker wait).2 with same | ⟨-, returns⟩
      · exact .inl (same ▸ left)
      · rw [returns, Worker.returns]
        cases cached : worker.image with
        | none => exact .inl left
        | some image =>
            by_cases same : image.id = imageId
            · exact .inr ⟨image, rfl, same⟩
            · exact .inl (Finset.mem_erase.mpr ⟨Ne.symm same, left⟩)
  | delete | uploads => exact .inr (.inr (.inl (by simpa using left)))
  | create => exact .inr (.inr (.inl (by simp [left])))
  | clean _ _ outcome cleaned =>
      by_cases same : imageId = cleaned
      · exact .inr (.inl (same ▸ rfl))
      · exact .inr (.inr (.inl (Finset.mem_erase.mpr ⟨same, left⟩)))
  | poll | dataFails | uploadStarts | uploadFails | finish => exact .inr (.inr (.inl left))

/-- A worker outside a call only calls `create_image`. -/
theorem Step.called (step : Step event (worker, service) (next, nextService))
    (idle : worker.phase = .idle) : event = .called := by
  cases step with
  | call => rfl
  | poll _ _ _ elsewhere | resume _ _ _ elsewhere | delete _ _ _ elsewhere
  | create _ _ elsewhere | dataFails _ _ _ elsewhere | uploadStarts _ _ _ elsewhere
  | uploads _ _ _ elsewhere | uploadFails _ _ _ _ elsewhere | clean _ _ _ _ elsewhere
  | finish _ _ _ elsewhere =>
      rw [idle] at elsewhere
      cases elsewhere

theorem Step.cleaning {outcome : Outcome}
    (step : Step event (worker, service) (next, nextService))
    (cleaning : worker.phase = .cleaning outcome) :
    next.phase = .cleaning outcome ∨ event = .ended outcome := by
  cases step with
  | clean => exact .inl cleaning
  | finish _ _ ending finishing =>
      rw [cleaning, Phase.cleaning.injEq] at finishing
      exact .inr (finishing ▸ rfl)
  | call _ _ _ elsewhere | poll _ _ _ elsewhere | resume _ _ _ elsewhere
  | delete _ _ _ elsewhere | create _ _ elsewhere | dataFails _ _ _ elsewhere
  | uploadStarts _ _ _ elsewhere | uploads _ _ _ elsewhere | uploadFails _ _ _ _ elsewhere =>
      rw [cleaning] at elsewhere
      cases elsewhere

/-- The wait for an uploaded image: the worker goes on to look up the name, or it has
found the image. -/
def Worker.Awaits (worker : Worker) (imageId : Nat) : Prop :=
  worker.phase = .polling .active ∨
    (worker.phase = .waited .active ∧ worker.image = some ⟨imageId, .active⟩)

/-- As long as every lookup finds the uploaded image or one that is still changing,
the worker waits for the image until it has taken it out of its cleanup set. -/
theorem Step.awaits (step : Step event (worker, service) (next, nextService))
    (awaits : worker.Awaits imageId) (left : imageId ∈ next.cleanupImageIds)
    (found : ∀ answer, event = .observed answer →
      isImageStatusChanging answer = true ∨ answer = some ⟨imageId, .active⟩) :
    next.Awaits imageId := by
  cases step with
  | poll _ _ wait polling =>
      rcases awaits with active | ⟨elsewhere, -⟩
      · rw [polling, Phase.polling.injEq] at active
        subst active
        unfold Worker.Awaits Worker.observes
        rcases found _ rfl with changing | uploaded
        · left
          cases answered : service.findImage with
          | none => simp [answered, isImageStatusChanging] at changing
          | some image =>
              have unexpected : image.status ≠ .active := by
                intro active
                simp [answered, isImageStatusChanging, active, changingStatus] at changing
              rw [answered] at changing
              simp [keepsWaiting, imageStatus, Wait.expectedStatus, unexpected, changing]
        · right
          rw [uploaded]
          exact ⟨rfl, rfl⟩
      · rw [polling] at elsewhere
        cases elsewhere
  | resume _ _ wait waited =>
      rcases awaits with elsewhere | ⟨active, cached⟩
      · rw [waited] at elsewhere
        cases elsewhere
      · rw [waited, Phase.waited.injEq] at active
        subst active
        have returns : worker.resumes .active = worker.returns := by
          simp [Worker.resumes, cached, imageStatus, Wait.expectedStatus, Worker.continues]
        rw [returns, Worker.returns, cached] at left
        exact absurd rfl (Finset.mem_erase.mp left).1
  | call _ _ _ elsewhere | delete _ _ _ elsewhere | create _ _ elsewhere
  | dataFails _ _ _ elsewhere | uploadStarts _ _ _ elsewhere | uploads _ _ _ elsewhere
  | uploadFails _ _ _ _ elsewhere | clean _ _ _ _ elsewhere | finish _ _ _ elsewhere =>
      rcases awaits with here | ⟨here, -⟩ <;>
      · rw [elsewhere] at here
        cases here

end Step

end Tobiko.Openstack.Glance
