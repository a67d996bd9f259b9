import Mathlib.Data.Finset.Basic
import Tobiko.Foundation.Workers

/-!
Contract: `UploadGlanceImageFixture.create_image` of
`tobiko/openstack/glance/_image.py`, request by request, on any number of workers
that create an image of one name.

Owns: what Glance does with each request, the place of a call between two
requests and the local code that leads from one place to the next, the steps of
the workers, and the history of what they did.

Every request is one step; an upload is two, since the image is `saving` while
its data is sent. `get_image_data` may raise, and so may an upload, which leaves
the image in any status but `active`. The other requests succeed.

Does not own: the images of other names, and what the image data is.
-/

namespace Tobiko.Openstack.Glance

open Tobiko.Foundation

/-! ### Glance -/

/-- `GlanceImageStatus` -/
inductive GlanceImageStatus where
  | queued
  | saving
  | active
  | killed
  | deleted
  | pendingDelete
  | deactivated
  | uploading
  | importing
deriving DecidableEq, Repr

/-- `CHANGING_STATUS` -/
def changingStatus : List GlanceImageStatus :=
  [.queued, .importing, .pendingDelete, .saving, .uploading]

/-- `GETTING_ACTIVE_STATUS` -/
def gettingActiveStatus : List GlanceImageStatus := [.queued, .saving, .active]

structure Image where
  id : Nat
  status : GlanceImageStatus
deriving DecidableEq, Repr

def isImageStatusChanging (image : Option Image) : Bool :=
  image.any fun image => image.status ∈ changingStatus

def isImageGettingActive (image : Option Image) : Bool :=
  image.any fun image => image.status ∈ gettingActiveStatus

/-- `image and image.status or GlanceImageStatus.DELETED` -/
def imageStatus (image : Option Image) : GlanceImageStatus :=
  image.elim .deleted (·.status)

/-- The images of one name, the most recently created one first. -/
structure ImageService where
  images : List Image
  nextId : Nat
  ordered : images.Pairwise fun newer older => older.id < newer.id
  fresh : ∀ image ∈ images, image.id < nextId

namespace ImageService

/-- The service before any image of the name is created. -/
def empty : ImageService := ⟨[], 0, .nil, fun _ member => nomatch member⟩

variable (service : ImageService)

/-- `find_image(name=..., default=None)`: the first image of a list of at most one. -/
def findImage : Option Image := service.images.head?

def createImage : ImageService where
  images := ⟨service.nextId, .queued⟩ :: service.images
  nextId := service.nextId + 1
  ordered := .cons service.fresh service.ordered
  fresh image member := by
    rcases List.mem_cons.mp member with rfl | earlier
    · exact Nat.lt_succ_self _
    · exact Nat.lt_succ_of_lt (service.fresh image earlier)

def deleteImage (imageId : Nat) : ImageService where
  images := service.images.filter fun image => image.id != imageId
  nextId := service.nextId
  ordered := service.ordered.filter _
  fresh image member := service.fresh image (List.mem_filter.mp member).1

/-- An image in the one status changes to the other one. -/
def changeStatus (imageId : Nat) (before after : GlanceImageStatus) : ImageService where
  images := service.images.map fun image =>
    if image.id = imageId ∧ image.status = before then { image with status := after } else image
  nextId := service.nextId
  ordered := by
    refine List.pairwise_map.mpr (service.ordered.imp fun {newer older} lower => ?_)
    split <;> split <;> exact lower
  fresh image member := by
    obtain ⟨earlier, present, rfl⟩ := List.mem_map.mp member
    split <;> exact service.fresh earlier present

end ImageService

/-! ### One call -/

/-- What a call waits for. -/
inductive Wait where
  | gettingActive
  | deleted
  | active
deriving DecidableEq, Repr

def Wait.expectedStatus : Wait → List GlanceImageStatus
  | .gettingActive => gettingActiveStatus
  | .deleted => [.deleted]
  | .active => [.active]

/-- The condition of the loop of `wait_for_image_status`. -/
def keepsWaiting (wait : Wait) (image : Option Image) : Bool :=
  decide (imageStatus image ∉ wait.expectedStatus) && isImageStatusChanging image

/-- How `create_image` ends. -/
inductive Outcome where
  | returned (image : Option Image)
  | raised
deriving DecidableEq, Repr

/-- Where a worker is: before the next request, or where `wait_for_image_status`
has seen enough. -/
inductive Phase where
  | idle
  | polling (wait : Wait)
  | waited (wait : Wait)
  | deleting (imageId : Nat)
  | creating
  | uploading (imageId : Nat)
  | saving (imageId : Nat)
  | cleaning (outcome : Outcome)
deriving DecidableEq, Repr

/-- What `create_image` reads of the fixture. -/
structure UploadGlanceImageFixture where
  createImageRetries : Option Int
  preventImageCreate : Bool
deriving DecidableEq, Repr

/-- `retries or self.create_image_retries or 1` -/
def UploadGlanceImageFixture.retries (fixture : UploadGlanceImageFixture)
    (requested : Option Int) : Int :=
  ((requested.filter (· ≠ 0)).or (fixture.createImageRetries.filter (· ≠ 0))).getD 1

/-- A worker: its fixture with the cached image, and the variables of its call. -/
structure Worker where
  fixture : UploadGlanceImageFixture
  image : Option Image
  retries : Int
  cleanupImageIds : Finset Nat
  phase : Phase
deriving DecidableEq

namespace Worker

def init (fixture : UploadGlanceImageFixture) : Worker := ⟨fixture, none, 0, ∅, .idle⟩

variable (worker : Worker)

/-- An exception leaves the body of the `with` statement. -/
def raises : Worker := { worker with phase := .cleaning .raised }

/-- `wait_for_image_status` starts with the cached image. -/
def waits (wait : Wait) : Worker :=
  if worker.image.isNone || keepsWaiting wait worker.image then
    { worker with phase := .polling wait }
  else { worker with phase := .waited wait }

/-- `wait_for_image_status` goes on with what `get_image` found and cached. -/
def observes (wait : Wait) (answer : Option Image) : Worker :=
  { worker with
    image := answer
    phase := if keepsWaiting wait answer then .polling wait else .waited wait }

/-- `while retries >= 0`. The condition only fails where `image` has no value yet,
and the test of `image` after the loop raises then. -/
def loops : Worker :=
  if 0 ≤ worker.retries then worker.waits .gettingActive else worker.raises

/-- The start of `create_image`. -/
def createImage (requested : Option Int) : Worker :=
  { worker with retries := worker.fixture.retries requested, cleanupImageIds := ∅ }.loops

/-- Only the last wait for an image that is getting active checks its status. -/
def checks : Wait → Bool
  | .gettingActive => worker.retries = 0
  | _ => true

/-- `upload_image` until it reads the image data. -/
def uploadImage (image : Image) : Worker :=
  if image.status = .queued then { worker with phase := .uploading image.id } else worker.raises

/-- An image is getting active: the code after the loop. -/
def breaks (image : Image) : Worker :=
  if image.id ∈ worker.cleanupImageIds then worker.uploadImage image else worker.waits .active

/-- No image is getting active: the rest of the body of the loop. -/
def retry : Worker :=
  if worker.fixture.preventImageCreate then { worker with retries := worker.retries - 1 }.loops
  else match worker.image with
    | some image => { worker with retries := worker.retries - 1, phase := .deleting image.id }
    | none => { worker with retries := worker.retries - 1, phase := .creating }

/-- An image is active: the call keeps it if it has created it. -/
def returns : Worker :=
  { worker with
    cleanupImageIds := worker.image.elim worker.cleanupImageIds fun image =>
      worker.cleanupImageIds.erase image.id
    phase := .cleaning (.returned worker.image) }

/-- What follows a wait whose check has passed. -/
def continues : Wait → Worker
  | .gettingActive =>
      match worker.image with
      | some image =>
          if isImageGettingActive (some image) then worker.breaks image else worker.retry
      | none => worker.retry
  | .deleted => { worker with image := none, phase := .creating }
  | .active => worker.returns

/-- `check_image_status` at the end of `wait_for_image_status`, and what follows it. -/
def resumes (wait : Wait) : Worker :=
  if worker.checks wait && decide (imageStatus worker.image ∉ wait.expectedStatus) then
    worker.raises
  else worker.continues wait

end Worker

/-! ### The steps -/

/-- What a step of a worker shows. -/
inductive Event where
  | called
  | observed (answer : Option Image)
  | created (imageId : Nat)
  | uploaded (imageId : Nat)
  | deleted (imageId : Nat)
  | ended (outcome : Outcome)
  | internal
deriving DecidableEq, Repr

/-- One step of a worker. -/
inductive Step : Event → Worker × ImageService → Worker × ImageService → Prop
  | call (worker service requested) (idle : worker.phase = .idle) :
      Step .called (worker, service) (worker.createImage requested, service)
  | poll (worker service wait) (polling : worker.phase = .polling wait) :
      Step (.observed service.findImage) (worker, service)
        (worker.observes wait service.findImage, service)
  | resume (worker service wait) (waited : worker.phase = .waited wait) :
      Step .internal (worker, service) (worker.resumes wait, service)
  | delete (worker service imageId) (deleting : worker.phase = .deleting imageId) :
      Step (.deleted imageId) (worker, service)
        (worker.waits .deleted, service.deleteImage imageId)
  | create (worker service) (creating : worker.phase = .creating) :
      Step (.created service.nextId) (worker, service)
        ({ worker with
            cleanupImageIds := insert service.nextId worker.cleanupImageIds }.loops,
          service.createImage)
  /- `upload_image` -/
  | dataFails (worker service imageId) (uploading : worker.phase = .uploading imageId) :
      Step .internal (worker, service) (worker.raises, service)
  | uploadStarts (worker service imageId) (uploading : worker.phase = .uploading imageId) :
      Step .internal (worker, service)
        ({ worker with phase := .saving imageId },
          service.changeStatus imageId .queued .saving)
  | uploads (worker service imageId) (saving : worker.phase = .saving imageId)
      (present : ⟨imageId, .saving⟩ ∈ service.images) :
      Step (.uploaded imageId) (worker, service)
        (worker.waits .active, service.changeStatus imageId .saving .active)
  | uploadFails (worker service imageId status) (saving : worker.phase = .saving imageId)
      (inactive : status ≠ .active) :
      Step .internal (worker, service)
        (worker.raises, service.changeStatus imageId .saving status)
  /- The `finally` block of `_cleanup_image_ids`, in the order of any iteration. -/
  | clean (worker service outcome imageId) (cleaning : worker.phase = .cleaning outcome)
      (left : imageId ∈ worker.cleanupImageIds) :
      Step (.deleted imageId) (worker, service)
        ({ worker with cleanupImageIds := worker.cleanupImageIds.erase imageId },
          service.deleteImage imageId)
  | finish (worker service outcome) (cleaning : worker.phase = .cleaning outcome)
      (cleaned : worker.cleanupImageIds = ∅) :
      Step (.ended outcome) (worker, service) ({ worker with phase := .idle }, service)

section Runs

variable {Name : Type}

abbrev History (Name : Type) := Workers.History Name Event

/-- All the workers, each of which is named by a `Name`, and Glance. -/
abbrev State (Name : Type) := Workers.State Name Event Worker ImageService

/-- No worker has called `create_image` yet. -/
def start (fixtures : Name → UploadGlanceImageFixture) (service : ImageService) : State Name :=
  .start (fun name => Worker.init (fixtures name)) service

/-- The runs all whose steps are allowed. -/
abbrev Reachable [DecidableEq Name] (allowed : State Name → Name → Event → Prop)
    (fixtures : Name → UploadGlanceImageFixture) (service : ImageService)
    (state : State Name) : Prop :=
  Workers.Reachable Step allowed (start fixtures service) state

end Runs

end Tobiko.Openstack.Glance
