import Tobiko.Common.Shelves.Program

/-!
Contract: what each function of `tobiko/common/_shelves.py` may do to the
shelves directory and to the locks.

Owns: the files that a call may access (`Call.accesses`), and one lemma for each
function that reduces a policy on its body to the updates the policy allows.
The bounds on the accessed files, on the locks and on the updates are its
instances.
-/

namespace Tobiko.Common.Shelves

open Tobiko.Foundation

/-- What happens to the content of an open shelf, apart from the run id. -/
inductive DbUpdate : (Option Shelf → Option Shelf) → Prop
  | read : DbUpdate id
  | opened : DbUpdate fun content => some (content.getD Shelf.empty)
  | setItem (resource tests) : DbUpdate (Option.map (·.setItem resource tests))

/-- The policy allows everything that happens to the content of this shelf. -/
def AllowsDb (policy : Prog.Policy String Shelf) (shelf : String) : Prop :=
  ∀ update, DbUpdate update → policy.accesses shelf update

section Access

variable {policy : Prog.Policy String Shelf} {shelf resource testcaseId : String}
  {handler : Fault → Body}

theorem openShelf_obeys {next : Body} (allows : AllowsDb policy shelf)
    (handles : ∀ fault, (handler fault).Obeys policy) (continues : next.Obeys policy) :
    (openShelf shelf handler next).Obeys policy :=
  ⟨allows _ .opened, fun _ => continues, handles⟩

theorem getResource_obeys {next : Option (Finset String) → Body} (allows : AllowsDb policy shelf)
    (handles : ∀ fault, (handler fault).Obeys policy)
    (continues : ∀ registered, (next registered).Obeys policy) :
    (getResource shelf handler resource next).Obeys policy :=
  ⟨allows _ .read, fun _ => continues _, handles⟩

theorem getItem_obeys {next : Finset String → Body} (allows : AllowsDb policy shelf)
    (handles : ∀ fault, (handler fault).Obeys policy)
    (continues : ∀ tests, (next tests).Obeys policy) :
    (getItem shelf handler resource next).Obeys policy := by
  refine getResource_obeys allows handles fun registered => ?_
  cases registered with
  | none => trivial
  | some tests => exact continues tests

theorem setItem_obeys {tests : Finset String} {next : Body} (allows : AllowsDb policy shelf)
    (handles : ∀ fault, (handler fault).Obeys policy) (continues : next.Obeys policy) :
    (setItem shelf handler resource tests next).Obeys policy :=
  ⟨allows _ (.setItem resource tests), fun _ => continues, handles⟩

theorem getKeys_obeys {next : List String → Body} (allows : AllowsDb policy shelf)
    (handles : ∀ fault, (handler fault).Obeys policy)
    (continues : ∀ resources, (next resources).Obeys policy) :
    (getKeys shelf handler next).Obeys policy :=
  ⟨allows _ .read, fun _ => continues _, handles⟩

theorem retryOnDbmError_obeys {attempt : (Fault → Body) → Body}
    (obeys : ∀ handler, (∀ fault, (handler fault).Obeys policy) →
      (attempt handler).Obeys policy) (attempts : Nat) :
    (retryOnDbmError attempt attempts).Obeys policy := by
  induction attempts with
  | zero => exact obeys _ fun _ => trivial
  | succ attempts inductionHypothesis =>
      refine obeys _ fun fault => ?_
      split
      · exact inductionHypothesis
      · trivial

end Access

/-! ### The decorated functions -/

section Functions

variable {policy : Prog.Policy String Shelf} {shelf resource testcaseId : String}

theorem addmeToSharedResource_obeys (allows : AllowsDb policy shelf) (attempts : Nat) :
    (addmeToSharedResource shelf resource testcaseId attempts).Obeys policy := by
  refine retryOnDbmError_obeys (fun handler handles => ?_) attempts
  have store : ∀ auxset : Finset String, (setItem shelf handler resource (insert testcaseId auxset)
      (getItem shelf handler resource fun tests => .ret (.returned (some tests)))).Obeys policy :=
    fun auxset => setItem_obeys allows handles (getItem_obeys allows handles fun _ => trivial)
  refine openShelf_obeys allows handles (getResource_obeys allows handles fun registered => ?_)
  cases registered with
  | none => exact setItem_obeys allows handles (getItem_obeys allows handles store)
  | some tests => exact getItem_obeys allows handles store

theorem removemeFromSharedResource_obeys (allows : AllowsDb policy shelf) (attempts : Nat) :
    (removemeFromSharedResource shelf resource testcaseId attempts).Obeys policy := by
  refine retryOnDbmError_obeys (fun handler handles => ?_) attempts
  have answer : (getItem shelf handler resource fun tests =>
      .ret (.returned (some tests))).Obeys policy := getItem_obeys allows handles fun _ => trivial
  refine openShelf_obeys allows handles (getResource_obeys allows handles fun registered => ?_)
  refine setItem_obeys allows handles (getItem_obeys allows handles fun tests => ?_)
  split
  · exact getItem_obeys allows handles fun auxset => setItem_obeys allows handles answer
  · exact answer

theorem removeFromResources_obeys {handler : Fault → Body} (allows : AllowsDb policy shelf)
    (handles : ∀ fault, (handler fault).Obeys policy) (resources : List String) :
    (removeFromResources shelf testcaseId handler resources).Obeys policy := by
  induction resources with
  | nil => trivial
  | cons resource rest inductionHypothesis =>
      refine getItem_obeys allows handles fun tests => ?_
      split
      · exact getItem_obeys allows handles fun auxset =>
          setItem_obeys allows handles inductionHypothesis
      · exact inductionHypothesis

theorem removeFromShelfAttempt_obeys {handler : Fault → Body} (allows : AllowsDb policy shelf)
    (handles : ∀ fault, (handler fault).Obeys policy) :
    (removeFromShelfAttempt testcaseId shelf handler).Obeys policy :=
  openShelf_obeys allows handles
    (getKeys_obeys allows handles fun resources =>
      removeFromResources_obeys allows handles resources)

/-- The shelves that are tried in the place of `shelf`. -/
def StrippedFrom (shelf other : String) : Prop :=
  ∃ count : Nat, stripExtension^[count] shelf = other

theorem StrippedFrom.refl (shelf : String) : StrippedFrom shelf shelf := ⟨0, rfl⟩

theorem StrippedFrom.strip {shelf other : String}
    (stripped : StrippedFrom (stripExtension shelf) other) : StrippedFrom shelf other := by
  obtain ⟨count, same⟩ := stripped
  exact ⟨count + 1, same⟩

theorem removeTestFromShelfResources_obeys (attempts : Nat) {shelf : String}
    (allows : ∀ other, StrippedFrom shelf other → AllowsDb policy other) :
    (removeTestFromShelfResources testcaseId attempts shelf).Obeys policy := by
  induction attempts generalizing shelf with
  | zero =>
      refine removeFromShelfAttempt_obeys (allows shelf (.refl shelf)) fun fault => ?_
      cases fault with
      | dbTypeUndetermined =>
          dsimp only
          split <;> trivial
      | fileNotFound => trivial
      | dbmError => trivial
      | databaseError => trivial
  | succ attempts inductionHypothesis =>
      have again := inductionHypothesis allows
      refine removeFromShelfAttempt_obeys (allows shelf (.refl shelf)) fun fault => ?_
      cases fault with
      | fileNotFound => trivial
      | dbTypeUndetermined =>
          dsimp only
          split
          · exact inductionHypothesis fun other stripped => allows other stripped.strip
          · exact again
      | dbmError => exact again
      | databaseError => exact again

theorem removeTestFromAllSharedResources_obeys {lock : String} {attempts : String → Nat}
    (locks : policy.locks) (lists : policy.lists isSharedShelf)
    (allows : ∀ filename, isSharedShelf filename = true → ∀ other, StrippedFrom filename other →
      AllowsDb policy other) :
    (removeTestFromAllSharedResources lock testcaseId attempts).Obeys policy := by
  refine ⟨lists, fun filenames shared => ?_⟩
  induction filenames with
  | nil => trivial
  | cons filename rest inductionHypothesis =>
      refine ⟨locks, Prog.Obeys.bind (removeTestFromShelfResources_obeys _
        (allows filename (shared filename List.mem_cons_self))) fun outcome => ⟨locks, ?_⟩⟩
      cases outcome with
      | returned tests =>
          exact inductionHypothesis fun other member => shared other (List.mem_cons_of_mem _ member)
      | raised error => trivial

theorem unlinkEach_obeys {handler : Fault → Body}
    (handles : ∀ fault, (handler fault).Obeys policy) {filenames : List String}
    (unlinks : ∀ filename ∈ filenames, policy.accesses filename fun _ => none) :
    (unlinkEach handler filenames).Obeys policy := by
  induction filenames with
  | nil => trivial
  | cons filename rest inductionHypothesis =>
      refine ⟨unlinks filename List.mem_cons_self, fun content => ?_, handles⟩
      cases content with
      | none => exact handles .fileNotFound
      | some _ =>
          exact inductionHypothesis fun other member =>
            unlinks other (List.mem_cons_of_mem _ member)

theorem initializeShelves_obeys {testRunUid : Option String} (allows : AllowsDb policy testRunShelf)
    (records : ∀ uid : String, policy.accesses testRunShelf
      (Option.map fun db => { db with testRunUid := some uid }))
    (lists : policy.lists fun filename => !isTestRunShelf filename)
    (unlinks : ∀ filename, isTestRunShelf filename = false →
      policy.accesses filename fun _ => none) (attempts : Nat) :
    (initializeShelves testRunUid attempts).Obeys policy := by
  refine retryOnDbmError_obeys (fun handler handles => ?_) attempts
  have unlink : (unlinkShelves handler).Obeys policy :=
    ⟨lists, fun filenames kept => unlinkEach_obeys handles fun filename member =>
      unlinks filename (by simpa using kept filename member)⟩
  refine openShelf_obeys allows handles ?_
  cases testRunUid with
  | none => exact unlink
  | some uid =>
      refine ⟨allows _ .read, fun content => ?_, handles⟩
      dsimp only
      split
      · trivial
      · exact ⟨records uid, fun _ => unlink, handles⟩

end Functions

/-! ### Files and locks of a call -/

/-- The files that the body of a call may access. -/
def Call.accesses : Call → String → Prop
  | .addmeToSharedResource shelf _ _ _, filename => filename = shelf
  | .removemeFromSharedResource shelf _ _ _, filename => filename = shelf
  | .removeTestFromShelfResources _ shelf _, filename => StrippedFrom shelf filename
  | .removeTestFromAllSharedResources _ _, filename =>
      ∃ listed, isSharedShelf listed = true ∧ StrippedFrom listed filename
  | .initializeShelves _ _, filename => filename = testRunShelf ∨ isTestRunShelf filename = false

theorem Call.body_within (call : Call) : call.body.Obeys (Prog.within call.accesses) := by
  cases call with
  | addmeToSharedResource => exact addmeToSharedResource_obeys (fun _ _ => rfl) _
  | removemeFromSharedResource => exact removemeFromSharedResource_obeys (fun _ _ => rfl) _
  | removeTestFromShelfResources =>
      exact removeTestFromShelfResources_obeys _ fun _ stripped _ _ => stripped
  | removeTestFromAllSharedResources =>
      exact removeTestFromAllSharedResources_obeys trivial
        (fun filename shared => ⟨filename, shared, .refl filename⟩)
        fun filename shared _ stripped _ _ => ⟨filename, shared, stripped⟩
  | initializeShelves =>
      refine initializeShelves_obeys (fun _ _ => Or.inl rfl) (fun _ => Or.inl rfl) ?_
        (fun _ other => Or.inr other) _
      exact fun filename kept => Or.inr (by simpa using kept)

/-- The call calls decorated functions with its own lock name. -/
def Call.isNested : Call → Bool
  | .removeTestFromAllSharedResources _ _ => true
  | _ => false

theorem Call.body_lockFree {call : Call} (plain : call.isNested = false) :
    call.body.Obeys Prog.lockFree := by
  cases call with
  | addmeToSharedResource => exact addmeToSharedResource_obeys (fun _ _ => trivial) _
  | removemeFromSharedResource => exact removemeFromSharedResource_obeys (fun _ _ => trivial) _
  | removeTestFromShelfResources =>
      exact removeTestFromShelfResources_obeys _ fun _ _ _ _ => trivial
  | removeTestFromAllSharedResources => simp [isNested] at plain
  | initializeShelves =>
      exact initializeShelves_obeys (fun _ _ => trivial) (fun _ => trivial) trivial
        (fun _ _ => trivial) _

end Tobiko.Common.Shelves
