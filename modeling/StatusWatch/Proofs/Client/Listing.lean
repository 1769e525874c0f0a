import Mathlib
import StatusWatch.Json.Reader
import StatusWatch.Proofs.Client.Attempts
import StatusWatch.Proofs.Fields
import StatusWatch.Proofs.Success

/-!
Reading through failures that pass. A collection is fetched page by page, each page but the first by
the token of the page before it; what it comes to are the objects of all its pages, in their order,
or the failure of the first page that could not be had. An object is fetched like a page, and its
absence is reported by the name that it was asked for. Of the library it is only assumed that it
writes what it reads as objects.
-/

namespace StatusWatch.Client

variable {library : Library} {server : Server} {r : Resource} {ns token : Option String}
  {log : List Request}

namespace Library

/-- The item is written as an object with fields. -/
def WritesObject (library : Library) (item : library.Object) : Prop :=
  ∃ fields, library.toJson item = .ok (.obj fields)

/-- What the library reads from a reply it can write again, as an object with fields. -/
structure Sound (library : Library) : Prop where
  object : ∀ reply item, library.object reply = .ok item → library.WritesObject item
  page : ∀ reply page, library.page reply = .ok page → ∀ item ∈ page.items,
    library.WritesObject item

end Library

/-- The object is the item as the library writes it, made to say what it is. -/
structure Stamped (library : Library) (r : Resource) (item : library.Object) (object : Json) :
    Prop where
  apiVersion : Document.apiVersion? object = some r.apiVersion
  kind : Document.kind? object = some r.kind
  others : ∃ json, library.toJson item = .ok json ∧
    ∀ name, name ≠ "apiVersion" → name ≠ "kind" → object.get? name = json.get? name

section Objects

theorem exists_stamped {item : library.Object} (h : library.WritesObject item) (r : Resource) :
    ∃ object, written library r item = .ok object ∧ Stamped library r item object := by
  obtain ⟨fields, writes⟩ := h
  refine ⟨withType r (.obj fields), by rw [written, writes]; rfl, ?_, ?_, .obj fields, writes, ?_⟩
  · simp [withType, Document.apiVersion?, Json.get?, Json.lookup_putField, Json.str?]
  · simp [withType, Document.kind?, Json.get?, Json.lookup_putField, Json.str?]
  · intro name apart apart'
    simp [withType, Json.get?, Json.lookup_putField, apart, apart']

theorem exists_stamped_all {items : List library.Object}
    (h : ∀ item ∈ items, library.WritesObject item) (r : Resource) :
    ∃ objects, items.mapM (written library r) = .ok objects ∧
      List.Forall₂ (Stamped library r) items objects := by
  induction items with
  | nil => exact ⟨[], rfl, .nil⟩
  | cons item rest ih =>
    rw [List.forall_mem_cons] at h
    obtain ⟨object, made, stamped⟩ := exists_stamped h.1 r
    obtain ⟨objects, behind, all⟩ := ih h.2
    refine ⟨object :: objects, ?_, .cons stamped all⟩
    rw [List.mapM_cons, made, ok_bind, behind]
    rfl

end Objects

section Tokens

variable {page : Page α} {next : String}

theorem Page.next?_eq_some_iff :
    page.next? = some next ↔ page.token = some next ∧ next ≠ "" := by
  simp [next?, Option.filter_eq_some_iff]

theorem Page.next?_eq_none_iff :
    page.next? = none ↔ page.token = none ∨ page.token = some "" := by
  unfold next?
  cases page.token <;> simp

end Tokens

structure Visit (α : Type) where
  failures : Nat
  page : Page α

/-- The requests for pages in turn, the first by a given token and each further one by the token of
the page before it. -/
def requests (r : Resource) (ns : Option String) :
    Option String → List (Visit α) → List Request
  | _, [] => []
  | token, v :: rest =>
    List.replicate (v.failures + 1) (pageRequest r ns token) ++ requests r ns v.page.token rest

def items (visits : List (Visit α)) : List α :=
  visits.flatMap fun v => v.page.items

def FetchedPage (library : Library) (server : Server) (r : Resource) (ns token : Option String)
    (log : List Request) (failures : Nat) (result : Except CallFault (Page library.Object)) : Prop :=
  Fetched server library.page (pageRequest r ns token) 2 log failures result

/-- How the pages of a collection end: with one that leads to no other, or where one fails. Or they
are left off where there is another page. -/
inductive Ending where
  | complete
  | broken (token : Option String) (failures : Nat) (fault : CallFault)
  | leftOff

namespace Ending

def requests (r : Resource) (ns : Option String) : Ending → List Request
  | .complete => []
  | .broken token failures _ => List.replicate (failures + 1) (pageRequest r ns token)
  | .leftOff => []

def result (library : Library) (r : Resource) (visits : List (Visit library.Object)) :
    Ending → Except Error (List Json)
  | .complete => (items visits).mapM (written library r)
  | .broken _ _ fault => .error fault.toError
  | .leftOff => .error (.timeout s!"list {r.plural}")

/-- Pages are left off only when no more of them are waited for. -/
def Within (bound : Nat) (visits : List (Visit α)) : Ending → Prop
  | .complete => visits.length ≤ bound + 1
  | .broken _ _ _ => visits.length ≤ bound
  | .leftOff => visits.length = bound + 1

theorem within_cons {ending : Ending} {bound : Nat} {v : Visit α} {visits : List (Visit α)} :
    ending.Within (bound + 1) (v :: visits) ↔ ending.Within bound visits := by
  cases ending <;> simp [Within]

end Ending

/-- The pages from a token on, as the server gives them one after another. -/
inductive Chain (library : Library) (server : Server) (r : Resource) (ns : Option String) :
    Option String → List Request → List (Visit library.Object) → Ending → Prop
  | last {token : Option String} {log : List Request} {failures : Nat}
      {page : Page library.Object}
      (fetched : FetchedPage library server r ns token log failures (.ok page))
      (ends : page.token = none ∨ page.token = some "") :
      Chain library server r ns token log [⟨failures, page⟩] .complete
  | broken {token : Option String} {log : List Request} {failures : Nat} {fault : CallFault}
      (fetched : FetchedPage library server r ns token log failures (.error fault)) :
      Chain library server r ns token log [] (.broken token failures fault)
  | leftOff {token : Option String} {log : List Request} {failures : Nat}
      {page : Page library.Object} {next : String}
      (fetched : FetchedPage library server r ns token log failures (.ok page))
      (goesOn : page.token = some next) (named : next ≠ "") :
      Chain library server r ns token log [⟨failures, page⟩] .leftOff
  | more {token : Option String} {log : List Request} {failures : Nat}
      {page : Page library.Object} {next : String} {visits : List (Visit library.Object)}
      {ending : Ending}
      (fetched : FetchedPage library server r ns token log failures (.ok page))
      (goesOn : page.token = some next) (named : next ≠ "")
      (rest : Chain library server r ns (some next)
        (log ++ List.replicate (failures + 1) (pageRequest r ns token)) visits ending) :
      Chain library server r ns token log (⟨failures, page⟩ :: visits) ending

section Chains

variable {visits : List (Visit library.Object)} {ending : Ending}

/-- However long a collection is, its pages are a chain of as many as are waited for. -/
theorem exists_chain (library : Library) (server : Server) (r : Resource) (ns : Option String)
    (bound : Nat) (token : Option String) (log : List Request) :
    ∃ visits ending,
      Chain library server r ns token log visits ending ∧ ending.Within bound visits := by
  induction bound generalizing token log with
  | zero =>
    obtain ⟨failures, result, fetched, -⟩ :=
      exists_fetched server library.page (pageRequest r ns token) 2 log
    cases result with
    | error fault => exact ⟨[], _, .broken fetched, Nat.le_refl 0⟩
    | ok page =>
      cases leads : page.next? with
      | none => exact ⟨_, _, .last fetched (Page.next?_eq_none_iff.mp leads), Nat.le_refl 1⟩
      | some next =>
        obtain ⟨goesOn, named⟩ := Page.next?_eq_some_iff.mp leads
        exact ⟨_, _, .leftOff fetched goesOn named, rfl⟩
  | succ bound ih =>
    obtain ⟨failures, result, fetched, -⟩ :=
      exists_fetched server library.page (pageRequest r ns token) 2 log
    cases result with
    | error fault => exact ⟨[], _, .broken fetched, Nat.zero_le _⟩
    | ok page =>
      cases leads : page.next? with
      | none =>
        exact ⟨_, _, .last fetched (Page.next?_eq_none_iff.mp leads), Nat.le_add_left 1 _⟩
      | some next =>
        obtain ⟨goesOn, named⟩ := Page.next?_eq_some_iff.mp leads
        obtain ⟨visits, ending, chain, within⟩ := ih (some next) _
        exact ⟨_, ending, .more fetched goesOn named chain, Ending.within_cons.mpr within⟩

theorem Chain.writesObject (sound : library.Sound)
    (h : Chain library server r ns token log visits ending) :
    ∀ item ∈ items visits, library.WritesObject item := by
  induction h with
  | last fetched ends => simpa [items] using sound.page _ _ fetched.settled
  | broken fetched => exact nofun
  | leftOff fetched goesOn named => simpa [items] using sound.page _ _ fetched.settled
  | more fetched goesOn named rest ih =>
    intro item mem
    rcases List.mem_append.mp mem with here | behind
    · exact sound.page _ _ fetched.settled item here
    · exact ih item behind

end Chains

section Pages

variable {failures : Nat} {page : Page library.Object} {own : List Json}
  {more : String → Exchange (Except Error (List Json))}

theorem FetchedPage.run {result : Except CallFault (Page library.Object)}
    (h : FetchedPage library server r ns token log failures result) :
    (fetchPage library server r ns token).run log =
      (result.mapError CallFault.toError,
        log ++ List.replicate (failures + 1) (pageRequest r ns token)) :=
  Fetched.run h

theorem run_listPage_of_broken {fault : CallFault}
    (fetched : FetchedPage library server r ns token log failures (.error fault)) :
    (listPage library server r ns token more).run log =
      (.error fault.toError, log ++ List.replicate (failures + 1) (pageRequest r ns token)) := by
  rw [listPage, run_bind _ fetched.run]
  rfl

theorem run_listPage_of_last
    (fetched : FetchedPage library server r ns token log failures (.ok page))
    (made : page.items.mapM (written library r) = .ok own) (ends : page.next? = none) :
    (listPage library server r ns token more).run log =
      (.ok own, log ++ List.replicate (failures + 1) (pageRequest r ns token)) := by
  rw [listPage, run_bind _ fetched.run]
  simp only [Except.mapError, made, ends]
  rfl

theorem run_listPage_of_more {next : String} {visits : List (Visit library.Object)}
    {ending : Ending} {log' : List Request}
    (fetched : FetchedPage library server r ns token log failures (.ok page))
    (made : page.items.mapM (written library r) = .ok own) (leads : page.next? = some next)
    (behind : (more next).run (log ++ List.replicate (failures + 1) (pageRequest r ns token)) =
      (ending.result library r visits, log')) :
    (listPage library server r ns token more).run log =
      (ending.result library r (⟨failures, page⟩ :: visits), log') := by
  rw [listPage, run_bind _ fetched.run]
  simp only [Except.mapError, made, leads]
  rw [run_bind _ behind]
  cases ending with
  | complete =>
    have all : items (⟨failures, page⟩ :: visits) = page.items ++ items visits := rfl
    rw [Ending.result, Ending.result, all, List.mapM_append, made]
    cases (items visits).mapM (written library r) <;> rfl
  | broken token failures fault => rfl
  | leftOff => rfl

theorem exists_listPage (bound : Nat) : ∃ more,
    listFrom library server r ns bound token = listPage library server r ns token more := by
  cases bound with
  | zero => exact ⟨_, rfl⟩
  | succ bound => exact ⟨_, rfl⟩

end Pages

section Runs

variable {visits : List (Visit library.Object)} {ending : Ending} {bound : Nat}

theorem Chain.eq_broken_of_nil (h : Chain library server r ns token log [] ending) :
    ∃ token failures fault, ending = .broken token failures fault := by
  cases h
  exact ⟨_, _, _, rfl⟩

theorem Chain.exists_bound {v : Visit library.Object}
    (rest : Chain library server r ns token log visits ending)
    (within : ending.Within bound (v :: visits)) :
    ∃ left, bound = left + 1 ∧ ending.Within left visits := by
  cases bound with
  | succ left => exact ⟨left, rfl, Ending.within_cons.mp within⟩
  | zero =>
    cases visits with
    | nil =>
      obtain ⟨token, failures, fault, rfl⟩ := rest.eq_broken_of_nil
      exact absurd within (Nat.not_succ_le_zero 0)
    | cons v' visits =>
      cases ending <;> simp [Ending.Within] at within

theorem Chain.run (sound : library.Sound)
    (h : Chain library server r ns token log visits ending)
    (within : ending.Within bound visits) :
    (listFrom library server r ns bound token).run log =
      (ending.result library r visits,
        log ++ requests r ns token visits ++ ending.requests r ns) := by
  induction h generalizing bound with
  | last fetched ends =>
    obtain ⟨more, page⟩ := exists_listPage bound
    obtain ⟨own, made, -⟩ := exists_stamped_all (sound.page _ _ fetched.settled) r
    rw [page, run_listPage_of_last fetched made (Page.next?_eq_none_iff.mpr ends)]
    simp [Ending.result, Ending.requests, items, requests, made]
  | broken fetched =>
    obtain ⟨more, page⟩ := exists_listPage bound
    rw [page, run_listPage_of_broken fetched]
    simp [Ending.result, Ending.requests, requests]
  | @leftOff token log failures page next fetched goesOn named =>
    -- There is a further page, so nothing is left of the bound, and no request follows.
    have none : bound = 0 := (Nat.succ.inj within).symm
    subst none
    have behind : (pure (Ending.leftOff.result library r []) :
          Exchange (Except Error (List Json))).run
        (log ++ List.replicate (failures + 1) (pageRequest r ns token)) =
      (Ending.leftOff.result library r [],
        log ++ List.replicate (failures + 1) (pageRequest r ns token)) := rfl
    obtain ⟨own, made, -⟩ := exists_stamped_all (sound.page _ _ fetched.settled) r
    have leads := Page.next?_eq_some_iff.mpr ⟨goesOn, named⟩
    refine (run_listPage_of_more fetched made leads behind).trans ?_
    simp [Ending.result, Ending.requests, requests]
  | more fetched goesOn named rest ih =>
    obtain ⟨left, rfl, fits⟩ := rest.exists_bound within
    obtain ⟨own, made, -⟩ := exists_stamped_all (sound.page _ _ fetched.settled) r
    have leads := Page.next?_eq_some_iff.mpr ⟨goesOn, named⟩
    rw [listFrom, run_listPage_of_more fetched made leads (ih fits), requests, goesOn]
    simp only [List.append_assoc]

end Runs

/-- What is answered to one who asks for an object by its name, for a result of the library. -/
inductive Answers (library : Library) (r : Resource) (name : String) :
    Except CallFault library.Object → Except Error Json → Prop
  | found {item : library.Object} {object : Json} (stamped : Stamped library r item object) :
      Answers library r name (.ok item) (.ok object)
  | absent {status : ApiStatus} (code : status.code = 404) :
      Answers library r name (.error (.refused status)) (.error (.notFound r.kind name))
  | failed {fault : CallFault} (other : ∀ status, fault = .refused status → status.code ≠ 404) :
      Answers library r name (.error fault) (.error fault.toError)

theorem exists_answer_get (sound : library.Sound) (server : Server) (r : Resource)
    (ns : Option String) (name : String) (log : List Request) :
    ∃ failures result answer,
      Fetched server library.object (.object r ns name) 2 log failures result ∧
        (get library server r ns name).run log =
          (answer, log ++ List.replicate (failures + 1) (.object r ns name)) ∧
        Answers library r name result answer := by
  obtain ⟨failures, result, fetched, run⟩ :=
    exists_fetched server library.object (.object r ns name) 2 log
  refine ⟨failures, result, ?_⟩
  rw [get, retries, run_bind _ run]
  cases result with
  | ok item =>
    obtain ⟨object, made, stamped⟩ := exists_stamped (sound.object _ _ fetched.settled) r
    refine ⟨.ok object, fetched, ?_, .found stamped⟩
    simp only [Except.mapError, made]
    rfl
  | error fault =>
    refine ⟨_, fetched, rfl, ?_⟩
    cases fault with
    | transport fault => exact .failed nofun
    | refused status =>
      by_cases code : status.code = 404
      · simpa [CallFault.toError, Error.isNotFound, code] using Answers.absent code
      · have other : ∀ status', CallFault.refused status = .refused status' →
            status'.code ≠ 404 := by
          rintro _ ⟨⟩
          exact code
        simpa [CallFault.toError, Error.isNotFound, code] using Answers.failed other

/-- How a client reads from a server, behind requests made before. -/
structure ReadsThrough (library : Library) (server : Server) (r : Resource) (log : List Request) :
    Prop where
  fetched : ∀ ns token, ∃ failures result, failures < 3 ∧
    FetchedPage library server r ns token log failures result ∧
    (fetchPage library server r ns token).run log =
      (result.mapError CallFault.toError,
        log ++ List.replicate (failures + 1) (pageRequest r ns token))
  chained : ∀ ns bound, ∃ visits ending,
    Chain library server r ns none log visits ending ∧ ending.Within bound visits
  listed : ∀ ns visits, Chain library server r ns none log visits .complete →
    ∀ bound, visits.length ≤ bound + 1 → ∃ objects,
      ((cluster library server bound).list r ns).run log =
          (.ok objects, log ++ requests r ns none visits) ∧
        List.Forall₂ (Stamped library r) (items visits) objects
  broken : ∀ ns visits token failures fault,
    Chain library server r ns none log visits (.broken token failures fault) →
    ∀ bound, visits.length ≤ bound →
      ((cluster library server bound).list r ns).run log = (.error fault.toError,
        log ++ requests r ns none visits ++
          List.replicate (failures + 1) (pageRequest r ns token))
  got : ∀ ns name, ∃ failures result answer, failures < 3 ∧
    Fetched server library.object (.object r ns name) 2 log failures result ∧
    (get library server r ns name).run log =
      (answer, log ++ List.replicate (failures + 1) (.object r ns name)) ∧
    Answers library r name result answer

/-- Whatever the server replies to the requests made so far, no transient failure loses or repeats
an object. -/
theorem reads_through (library : Library) (sound : library.Sound) (server : Server) (r : Resource)
    (log : List Request) : ReadsThrough library server r log where
  fetched ns token := by
    obtain ⟨failures, result, fetched, run⟩ :=
      exists_fetched server library.page (pageRequest r ns token) 2 log
    exact ⟨failures, result, Nat.lt_succ_of_le fetched.few, fetched, run⟩
  chained ns bound := exists_chain library server r ns bound none log
  listed ns visits chain bound enough := by
    obtain ⟨objects, made, stamped⟩ := exists_stamped_all (chain.writesObject sound) r
    refine ⟨objects, (chain.run sound enough).trans ?_, stamped⟩
    simp [Ending.result, Ending.requests, made]
  broken ns visits token failures fault chain bound enough := chain.run sound enough
  got ns name := by
    obtain ⟨failures, result, answer, fetched, run, answers⟩ :=
      exists_answer_get sound server r ns name log
    exact ⟨failures, result, answer, Nat.lt_succ_of_le fetched.few, fetched, run, answers⟩

namespace Library

/-- A refusal that a body spells out, under a code from 400 on. -/
def refusal (code : Nat) (body : Json) : ApiStatus :=
  let text (name : String) : String := (body.nestedStr? [name]).getD ""
  ⟨text "status", text "message", text "reason", code⟩

def readAs (part? : Json → Option α) : Reply → Except CallFault α
  | .broken fault => .error (.transport fault)
  | .answer code body =>
    let unreadable : CallFault := .transport (.other "Error deserializing response")
    match Json.parse? body with
    | none => .error unreadable
    | some value =>
      if 400 ≤ code then .error (.refused (refusal code value))
      else (part? value).elim (.error unreadable) .ok

/-- A library that reads only pages with objects and a token in them, and keeps their objects field
by field. -/
def verbatim : Library where
  Object := List (String × Json)
  object := readAs Json.fields?
  page := readAs fun value => do
    let items ← (← (value.get? "items").bind Json.arr?).mapM Json.fields?
    let token ← value.nestedStr? ["metadata", "continue"]
    some ⟨items, some token⟩
  discover _ := pure (.ok [])
  toJson fields := .ok (.obj fields)

theorem verbatim_sound : verbatim.Sound :=
  ⟨fun _ fields _ => ⟨fields, rfl⟩, fun _ _ _ fields _ => ⟨fields, rfl⟩⟩

end Library

/-- Two pages, each had at the second attempt. -/
def flaky : Server := fun log =>
  let page (name token : String) : String :=
    "\x7b\"items\": [\x7b\"metadata\": \x7b\"name\": \"" ++ name ++
      "\"\x7d\x7d], \"metadata\": \x7b\"continue\": \"" ++ token ++ "\"\x7d\x7d"
  match log.length with
  | 1 => .answer 503 "\x7b\"status\": \"Failure\", \"message\": \"busy\", \"code\": 503\x7d"
  | 2 => .answer 200 (page "a" "next")
  | 3 => .broken (.interrupted "connection closed before message completed")
  | _ => .answer 200 (page "b" "")

theorem reads_through_pods :
    let pods : Resource := ⟨"", "v1", "Pod", "pods", true⟩
    let pod (name : String) : List (String × Json) := [("metadata", .obj [("name", .str name)])]
    let visits : List (Visit Library.verbatim.Object) :=
      [⟨1, ⟨[pod "a"], some "next"⟩⟩, ⟨1, ⟨[pod "b"], some ""⟩⟩]
    let first : Request := .page pods none 500 none
    let second : Request := .page pods none 500 (some "next")
    Library.verbatim.Sound ∧ Chain .verbatim flaky pods none none [] visits .complete ∧ ∃ objects,
      ((cluster .verbatim flaky 1).list pods none).run [] =
          (.ok objects, [first, first, second, second]) ∧
        List.Forall₂ (Stamped .verbatim pods) [pod "a", pod "b"] objects := by
  intro pods pod visits first second
  have busy : ∀ i < 1, ∃ fault, Transient fault ∧
      Library.verbatim.page (flaky ([] ++ List.replicate (i + 1) first)) = .error fault := by
    intro i before
    obtain rfl := Nat.lt_one_iff.mp before
    have passes : (match Library.verbatim.page (flaky [first]) with
        | .ok _ => false
        | .error fault => fault.isTransient) = true := by
      decide +kernel
    cases reply : Library.verbatim.page (flaky [first]) with
    | ok page =>
      rw [reply] at passes
      cases passes
    | error fault =>
      rw [reply] at passes
      exact ⟨fault, isTransient_iff.mp passes, reply⟩
  have broke : ∀ i < 1, ∃ fault, Transient fault ∧
      Library.verbatim.page (flaky ([first, first] ++ List.replicate (i + 1) second)) =
        .error fault := by
    intro i before
    obtain rfl := Nat.lt_one_iff.mp before
    exact ⟨_, .interrupted _, rfl⟩
  have chain : Chain .verbatim flaky pods none none [] visits .complete := by
    refine .more ⟨by decide, busy, ?_, nofun⟩ rfl (by decide)
      (.last ⟨by decide, broke, ?_, nofun⟩ (.inr rfl))
    · cbv
    · cbv
  have through := reads_through .verbatim Library.verbatim_sound flaky pods []
  exact ⟨Library.verbatim_sound, chain, through.listed none visits chain 1 (by decide)⟩

end StatusWatch.Client
