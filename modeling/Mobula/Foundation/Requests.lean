import Mobula.Foundation.Fallible
import Mobula.Foundation.Table

/-!
# Requests to a server of objects

A request reads and changes a state and may fail; what it changed before it failed stays
changed. `Request.Keeps` says what holds after a request whether it failed or not, the `ok`
lemmas what a request that succeeded did.
-/

namespace Foundation

abbrev Request (σ ε : Type) := ExceptT ε (StateM σ)

namespace Request

variable {σ τ ε ε' α β : Type}

def send (request : Request σ ε α) (state : σ) : Except ε α × σ :=
  request.run.run state

@[simp]
theorem send_pure (value : α) (state : σ) :
    (pure value : Request σ ε α).send state = (.ok value, state) := rfl

@[simp]
theorem send_throw (failure : ε) (state : σ) :
    (throw failure : Request σ ε α).send state = (.error failure, state) := rfl

theorem send_bind (first : Request σ ε α) (next : α → Request σ ε β) (state : σ) :
    (first >>= next).send state =
      match first.send state with
      | (.ok value, after) => (next value).send after
      | (.error failure, after) => (.error failure, after) := by
  simp only [send, ExceptT.run_bind, StateT.run_bind]
  rcases first.run.run state with ⟨failure | value, after⟩ <;> rfl

theorem send_tryCatch (request : Request σ ε α) (handler : ε → Request σ ε α) (state : σ) :
    (tryCatch request handler).send state =
      match request.send state with
      | (.ok value, after) => (.ok value, after)
      | (.error failure, after) => (handler failure).send after := by
  simp only [send, ExceptT.run_tryCatch, StateT.run_bind]
  rcases request.run.run state with ⟨failure | value, after⟩ <;> rfl

variable (part : τ → σ) (replace : σ → τ → τ) (describe : ε → ε')

def adapt (request : Request σ ε α) : Request σ ε' α :=
  fun state => ((request.send state).1.mapError describe, (request.send state).2)

def onPart (request : Request σ ε α) : Request τ ε α :=
  fun state => ((request.send (part state)).1, replace (request.send (part state)).2 state)

def attempt (request : Request σ ε α) : Request σ ε' (Except ε α) :=
  fun state => (.ok (request.send state).1, (request.send state).2)

@[simp]
theorem send_attempt (request : Request σ ε α) (state : σ) :
    (request.attempt : Request σ ε' (Except ε α)).send state =
      (.ok (request.send state).1, (request.send state).2) := rfl

@[simp]
theorem send_adapt (request : Request σ ε α) (state : σ) : (request.adapt describe).send state =
      ((request.send state).1.mapError describe, (request.send state).2) := rfl

@[simp]
theorem send_onPart (request : Request σ ε α) (state : τ) :
    (request.onPart part replace).send state =
      ((request.send (part state)).1, replace (request.send (part state)).2 state) := rfl

theorem send_of_isOk (request : Request σ ε Unit) (state : σ)
    (succeeds : (request.send state).1.isOk = true) :
    request.send state = (.ok (), (request.send state).2) := by
  rcases answered : request.send state with ⟨failure | _, final⟩
  · rw [answered] at succeeds
    cases succeeds
  · rfl

theorem ok_of_bind {first : Request σ ε α} {next : α → Request σ ε β} {state final : σ} {result : β}
    (sent : (first >>= next).send state = (.ok result, final)) :
    ∃ value middle, first.send state = (.ok value, middle) ∧
      (next value).send middle = (.ok result, final) := by
  rw [send_bind] at sent
  rcases answered : first.send state with ⟨failure | value, middle⟩
  · rw [answered] at sent
    cases sent
  · rw [answered] at sent
    exact ⟨value, middle, rfl, sent⟩

theorem ok_of_adapt {describe : ε → ε'} {request : Request σ ε α} {state final : σ} {value : α}
    (sent : (request.adapt describe).send state = (.ok value, final)) :
    request.send state = (.ok value, final) := by
  simp [send_adapt, Fallible.mapError_eq_ok] at sent
  exact Prod.ext sent.1 sent.2

/-- Whatever comes of the request, the state goes on satisfying a predicate. -/
def Keeps (holds : σ → Prop) (request : Request σ ε α) : Prop :=
  ∀ state, holds state → holds (request.send state).2

variable {holds : σ → Prop}

theorem keeps_pure {value : α} : Keeps holds (pure value : Request σ ε α) :=
  fun _ held => held

theorem keeps_throw {failure : ε} : Keeps holds (throw failure : Request σ ε α) :=
  fun _ held => held

theorem Keeps.bind {first : Request σ ε α} {next : α → Request σ ε β} (kept : Keeps holds first)
    (later : ∀ value, Keeps holds (next value)) : Keeps holds (first >>= next) := by
  intro state held
  have middle := kept state held
  rw [send_bind]
  rcases answered : first.send state with ⟨failure | value, after⟩
  · rwa [answered] at middle
  · rw [answered] at middle
    exact later value after middle

theorem keeps_forM {items : List β} {body : β → Request σ ε PUnit}
    (kept : ∀ item ∈ items, Keeps holds (body item)) : Keeps holds (items.forM body) := by
  induction items with
  | nil => exact keeps_pure
  | cons item items ih =>
    refine (kept item List.mem_cons_self).bind fun _ => ih ?_
    intro later laterMem
    exact kept later (List.mem_cons_of_mem item laterMem)

variable {request : Request σ ε α}

theorem Keeps.tryCatch {handler : ε → Request σ ε α} (kept : Keeps holds request)
    (handled : ∀ failure, Keeps holds (handler failure)) :
    Keeps holds (tryCatch request handler) := by
  intro state held
  have middle := kept state held
  rw [send_tryCatch]
  rcases answered : request.send state with ⟨failure | value, after⟩
  · rw [answered] at middle
    exact handled failure after middle
  · rwa [answered] at middle

theorem Keeps.adapt {describe : ε → ε'} (kept : Keeps holds request) :
    Keeps holds (request.adapt describe) :=
  kept

theorem Keeps.attempt (kept : Keeps holds request) :
    Keeps holds (request.attempt : Request σ ε' (Except ε α)) :=
  kept

theorem Keeps.onPart {part : τ → σ} {replace : σ → τ → τ} (kept : Keeps holds request)
    (replaces : ∀ after state, part (replace after state) = after) :
    Keeps (fun state => holds (part state)) (request.onPart part replace) := by
  intro state held
  rw [send_onPart, replaces]
  exact kept (part state) held

end Request

structure ApiError where
  code : ℕ
  message : String
  deriving DecidableEq, Repr

/-- Any failure other than the absence of an object. -/
structure Refusal where
  error : ApiError
  found : error.code ≠ 404

/-- Objects under keys, and which of the requests to come are refused. -/
structure Server {α κ : Type} (key : α → κ) where
  objects : Table key
  refusals : ℕ → Option Refusal

namespace Server

variable {α β κ : Type} {key : α → κ} (objects : Table key) (selects : α → Bool)
  (answer : Table key → Except ApiError β × Table key)

def serve : Request (Server key) ApiError β := fun server =>
  match server.refusals 0 with
  | some refusal => (.error refusal.error, ⟨server.objects, fun n => server.refusals (n + 1)⟩)
  | none =>
    ((answer server.objects).1,
      ⟨(answer server.objects).2, fun n => server.refusals (n + 1)⟩)

def list : Request (Server key) ApiError (List α) :=
  serve fun objects => (.ok (objects.rows.filter selects), objects)

variable [DecidableEq κ]

def getOpt (wanted : κ) : Request (Server key) ApiError (Option α) :=
  serve fun objects => (.ok (objects.find? wanted), objects)

def put (wanted : κ) (make : Option α → α) : Request (Server key) ApiError Unit :=
  serve fun objects => (.ok (), objects.insert (make (objects.find? wanted)))

def update (wanted : κ) (change : α → α) : Request (Server key) ApiError Unit :=
  serve fun objects =>
    match objects.find? wanted with
    | none => (.error ⟨404, "not found"⟩, objects)
    | some _ => (.ok (), objects.modify wanted change)

def delete (wanted : κ) : Request (Server key) ApiError Unit :=
  serve fun objects =>
    match objects.find? wanted with
    | none => (.error ⟨404, "not found"⟩, objects)
    | some _ => (.ok (), objects.erase wanted)

/-- Delete an object; that it is gone already is a success. -/
def deleteIfPresent (wanted : κ) : Request (Server key) ApiError Unit :=
  tryCatch (delete wanted) fun failure =>
    if failure.code = 404 then pure () else throw failure

variable {server final : Server key} {wanted absent : κ}

/-- A server that refuses nothing. -/
def calm : Server key :=
  ⟨objects, fun _ => none⟩

def Lacks (absent : κ) (server : Server key) : Prop :=
  server.objects.find? absent = none

omit [DecidableEq κ] in
theorem send_serve (server : Server key) : (serve answer).send server =
      match server.refusals 0 with
      | some refusal => (.error refusal.error, ⟨server.objects, fun n => server.refusals (n + 1)⟩)
      | none =>
        ((answer server.objects).1,
          ⟨(answer server.objects).2, fun n => server.refusals (n + 1)⟩) := rfl

omit [DecidableEq κ] in
/-- A request that only reads leaves the objects, refused or not. -/
theorem objects_serve {answer : Table key → Except ApiError β × Table key}
    (reads : ∀ objects, (answer objects).2 = objects) (server : Server key) :
    ((serve answer).send server).2.objects = server.objects := by
  rw [send_serve]
  split
  · rfl
  · exact reads _

omit [DecidableEq κ] in
/-- A request that was not refused was answered from the objects. -/
theorem ok_of_serve {answer : Table key → Except ApiError β × Table key} {value : β}
    (sent : (serve answer).send server = (.ok value, final)) :
    answer server.objects = (.ok value, final.objects) := by
  rw [send_serve] at sent
  split at sent
  · cases sent
  · simp at sent
    rw [← sent.1, ← sent.2]

omit [DecidableEq κ] in
/-- A request that failed was refused, or the objects gave no answer. -/
theorem error_of_serve {answer : Table key → Except ApiError β × Table key} {failure : ApiError}
    (sent : (serve answer).send server = (.error failure, final)) :
    (failure.code ≠ 404 ∧ final.objects = server.objects) ∨
      answer server.objects = (.error failure, final.objects) := by
  rw [send_serve] at sent
  split at sent
  · next refusal refused =>
      cases sent
      exact .inl ⟨refusal.found, rfl⟩
  · simp at sent
    right
    rw [← sent.1, ← sent.2]

def Holds (wanted : κ) (found : Option α) (server : Server key) : Prop :=
  server.objects.find? wanted = found

variable {found : Option α}

/-- A request that changes nothing under a key leaves what is stored there. -/
theorem holds_serve {answer : Table key → Except ApiError β × Table key}
    (kept : ∀ objects : Table key, objects.find? absent = found →
      (answer objects).2.find? absent = found) :
    Request.Keeps (Holds absent found) (serve answer) := by
  intro server held
  rw [send_serve]
  split
  · exact held
  · exact kept _ held

theorem holds_list :
    Request.Keeps (Holds absent found) (list selects : Request (Server key) ApiError (List α)) :=
  holds_serve fun _ held => held

theorem holds_getOpt :
    Request.Keeps (Holds absent found) (getOpt wanted : Request (Server key) ApiError (Option α)) :=
  holds_serve fun _ held => held

theorem holds_put {make : Option α → α} (makes : ∀ current, key (make current) ≠ absent) :
    Request.Keeps (Holds absent found) (put wanted make : Request (Server key) ApiError Unit) := by
  refine holds_serve ?_
  intro objects held
  rw [Table.find?_insert, if_neg (makes _).symm]
  exact held

theorem keeps_deleteIfPresent {holds : Server key → Prop}
    (kept : Request.Keeps holds (delete wanted)) :
    Request.Keeps holds (deleteIfPresent wanted : Request (Server key) ApiError Unit) := by
  refine kept.tryCatch ?_
  intro failure
  split
  · exact Request.keeps_pure
  · exact Request.keeps_throw

theorem holds_deleteIfPresent (differs : absent ≠ wanted) : Request.Keeps (Holds absent found)
      (deleteIfPresent wanted : Request (Server key) ApiError Unit) := by
  refine keeps_deleteIfPresent (holds_serve ?_)
  intro objects held
  rcases objects.find? wanted with _ | object
  · exact held
  · simpa [Table.find?_erase, differs] using held

theorem lacks_update {change : α → α} (keeps : ∀ object, key (change object) = key object) :
    Request.Keeps (Lacks absent) (update wanted change : Request (Server key) ApiError Unit) := by
  refine holds_serve ?_
  intro objects lacking
  rcases objects.find? wanted with _ | object
  · exact lacking
  · simp [Table.find?_modify objects wanted absent keeps, lacking]

theorem lacks_deleteIfPresent :
    Request.Keeps (Lacks absent) (deleteIfPresent wanted : Request (Server key) ApiError Unit) := by
  refine keeps_deleteIfPresent (holds_serve ?_)
  intro objects lacking
  rcases objects.find? wanted with _ | object
  · exact lacking
  · simp [Table.find?_erase, lacking]

/-- An object is stored under the key, or none is. -/
def Present (wanted : κ) (present : Bool) (server : Server key) : Prop :=
  (server.objects.find? wanted).isSome = present

variable {present : Bool}

theorem present_serve {answer : Table key → Except ApiError β × Table key}
    (keeps : ∀ objects : Table key,
      ((answer objects).2.find? wanted).isSome = (objects.find? wanted).isSome) :
    Request.Keeps (Present wanted present) (serve answer) := by
  intro server held
  rw [send_serve]
  split
  · exact held
  · exact (keeps _).trans held

/-- What is stored replaces at most what is there. -/
theorem present_put {stored : κ} {make : Option α → α} : Request.Keeps (Present wanted true)
      (put stored make : Request (Server key) ApiError Unit) := by
  intro server held
  rw [put, send_serve]
  split
  · exact held
  · rw [Present, Table.find?_insert]
    split
    · rfl
    · exact held

theorem present_update {changed : κ} {change : α → α}
    (keeps : ∀ object, key (change object) = key object) : Request.Keeps (Present wanted present)
      (update changed change : Request (Server key) ApiError Unit) := by
  refine present_serve ?_
  intro objects
  rcases objects.find? changed with _ | object
  · rfl
  simp only [Table.find?_modify objects changed wanted keeps]
  split
  · rw [Option.isSome_map]
  · rfl

theorem present_deleteIfPresent {deleted : κ} (differs : wanted ≠ deleted) :
    Request.Keeps (Present wanted present)
      (deleteIfPresent deleted : Request (Server key) ApiError Unit) := by
  intro server held
  rw [Present, holds_deleteIfPresent differs server rfl]
  exact held

theorem send_deleteIfPresent_calm (deleted : κ) :
    (deleteIfPresent deleted).send (calm objects) = (.ok (), calm (objects.erase deleted)) := by
  rw [deleteIfPresent, Request.send_tryCatch, delete, send_serve]
  rcases found : objects.find? deleted with _ | object
  · simp [calm, found, Table.erase_of_find?_eq_none found]
  · simp [calm, found]

omit [DecidableEq κ] in
theorem objects_of_list {selects : α → Bool} {listed : List α}
    (sent : (list selects).send server = (.ok listed, final)) :
    listed = server.objects.rows.filter selects ∧ final.objects = server.objects := by
  have answered := ok_of_serve sent
  simp at answered
  exact ⟨answered.1.symm, answered.2.symm⟩

theorem objects_of_put {make : Option α → α}
    (sent : (put wanted make).send server = (.ok (), final)) :
    final.objects = server.objects.insert (make (server.objects.find? wanted)) := by
  have answered := ok_of_serve sent
  simp at answered
  exact answered.symm

/-- What was deleted, or reported as gone, is gone. -/
theorem objects_of_deleteIfPresent (sent : (deleteIfPresent wanted).send server = (.ok (), final)) :
    final.objects = server.objects.erase wanted := by
  rw [deleteIfPresent, Request.send_tryCatch] at sent
  rcases answered : (delete wanted).send server with ⟨failure | _, after⟩
  · rw [answered] at sent
    simp only at sent
    split at sent
    · next gone =>
        rw [Request.send_pure, Prod.mk.injEq] at sent
        rw [← sent.2]
        rcases error_of_serve answered with refused | absent
        · exact absurd gone refused.1
        · cases found : server.objects.find? wanted with
          | none =>
            simp [found] at absent
            rw [← absent.2, Table.erase_of_find?_eq_none found]
          | some object => simp [found] at absent
    · cases sent
  · rw [answered] at sent
    cases sent
    have deleted := ok_of_serve answered
    rcases found : server.objects.find? wanted with _ | object
    · simp [found] at deleted
    simp [found] at deleted
    exact deleted.symm

end Server

end Foundation
