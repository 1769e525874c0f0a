import StatusWatch.Cluster
import StatusWatch.Proofs.Mirrors

/-!
A cluster that keeps a receipt of every call. Receipts say where an object comes from: the cluster
returned it in answer to a request for a resource. They change no answer.
-/

namespace StatusWatch

def Call.resource : Call → Resource
  | .get r _ _ => r
  | .list r _ => r

def Cluster.Gives (c : Cluster σ) (r : Resource) (object : Json) : Prop :=
  (∃ ns name s, ((c.get r ns name).run s).1 = .ok object) ∨
    ∃ ns s objects, ((c.list r ns).run s).1 = .ok objects ∧ object ∈ objects

theorem Cluster.gives_get {c : Cluster σ} {r : Resource} {ns : Option String} {name : String} {s : σ}
    {object : Json} (mem : object ∈ ((c.get r ns name).run s).1.toOption.toList) :
    c.Gives r object := by
  refine .inl ⟨ns, name, s, ?_⟩
  cases answer : ((c.get r ns name).run s).1 with
  | error e => simp [answer, Except.toOption] at mem
  | ok o =>
    rw [answer] at mem
    rw [List.mem_singleton.mp mem]

theorem Cluster.gives_list {c : Cluster σ} {r : Resource} {ns : Option String} {s : σ}
    {object : Json} (mem : object ∈ ((c.list r ns).run s).1.toOption.getD []) :
    c.Gives r object := by
  cases answer : ((c.list r ns).run s).1 with
  | error e => simp [answer, Except.toOption] at mem
  | ok objects =>
    rw [answer] at mem
    exact .inr ⟨ns, s, objects, answer, mem⟩

/-- A call with the objects that it returned; a call that failed has none. -/
structure Receipt (c : Cluster σ) where
  call : Call
  objects : List Json
  genuine : ∀ object ∈ objects, c.Gives call.resource object

abbrev Receipts (c : Cluster σ) := List (Receipt c)

def Cluster.receipted (c : Cluster σ) : Cluster (σ × Receipts c) where
  get r ns name := fun (s, receipts) =>
    let result := (c.get r ns name).run s
    (result.1, result.2,
      receipts ++ [⟨.get r ns name, result.1.toOption.toList, fun _ => gives_get⟩])
  list r ns := fun (s, receipts) =>
    let result := (c.list r ns).run s
    (result.1, result.2,
      receipts ++ [⟨.list r ns, result.1.toOption.getD [], fun _ => gives_list⟩])

def Receipts.Return {c : Cluster σ} (receipts : Receipts c) (r : Resource) (object : Json) : Prop :=
  ∃ receipt ∈ receipts, receipt.call.resource = r ∧ object ∈ receipt.objects

variable {c : Cluster σ}

theorem Receipts.Return.mono {receipts more : Receipts c} {r : Resource} {object : Json}
    (h : receipts.Return r object) (sub : receipts ⊆ more) : more.Return r object := by
  obtain ⟨receipt, mem, returned⟩ := h
  exact ⟨receipt, sub mem, returned⟩

theorem Receipts.Return.gives {receipts : Receipts c} {r : Resource} {object : Json}
    (h : receipts.Return r object) : c.Gives r object := by
  obtain ⟨receipt, -, rfl, returned⟩ := h
  exact receipt.genuine object returned

/-- From every state, the computation adds receipts to those that are there, and its result is as
`Q` says of the receipts it added. -/
def Draws (m : StateM (σ × Receipts c) α) (Q : Receipts c → α → Prop) : Prop :=
  ∀ world, ∃ added, (m.run world).2.2 = world.2 ++ added ∧ Q added (m.run world).1

namespace Draws

variable {Q : Receipts c → α → Prop} {R : Receipts c → β → Prop}

theorem pure {a : α} (h : Q [] a) : Draws (Pure.pure a : StateM (σ × Receipts c) α) Q :=
  fun _ => ⟨[], (List.append_nil _).symm, h⟩

theorem mono {P : Receipts c → α → Prop} {m : StateM (σ × Receipts c) α} (h : Draws m P)
    (weaker : ∀ added a, P added a → Q added a) : Draws m Q := by
  intro world
  obtain ⟨added, grown, holds⟩ := h world
  exact ⟨added, grown, weaker added _ holds⟩

theorem and {P : α → Prop} {m : StateM (σ × Receipts c) α} (h : Draws m Q)
    (always : ∀ world, P (m.run world).1) : Draws m fun added a => Q added a ∧ P a := by
  intro world
  obtain ⟨added, grown, holds⟩ := h world
  exact ⟨added, grown, holds, always world⟩

theorem bind {m : StateM (σ × Receipts c) α} {f : α → StateM (σ × Receipts c) β} (h : Draws m Q)
    (hf : ∀ added a, Q added a → Draws (f a) fun more b => R (added ++ more) b) :
    Draws (m >>= f) R := by
  intro world
  obtain ⟨added, grown, holds⟩ := h world
  obtain ⟨more, grown', holds'⟩ := hf added _ holds (m.run world).2
  refine ⟨added ++ more, ?_, holds'⟩
  rw [← List.append_assoc, ← grown]
  exact grown'

theorem bind_pure {m : StateM (σ × Receipts c) α} {f : α → β} (h : Draws m Q)
    (hf : ∀ added a, Q added a → R added (f a)) : Draws (m >>= fun a => Pure.pure (f a)) R := by
  refine h.bind fun added a holds => pure ?_
  rw [List.append_nil]
  exact hf added a holds

theorem mapM {f : α → StateM (σ × Receipts c) β}
    (grows : ∀ {before after : Receipts c} {b : β}, before ⊆ after → R before b → R after b)
    {l : List α} (h : ∀ a ∈ l, Draws (f a) R) :
    Draws (l.mapM f) fun added out => ∀ b ∈ out, R added b := by
  induction l with
  | nil => exact pure nofun
  | cons a rest ih =>
    rw [List.mapM_cons]
    have later := ih fun x mem => h x (List.mem_cons_of_mem a mem)
    refine (h a List.mem_cons_self).bind fun added b first => ?_
    refine later.bind fun more others rest => ?_
    refine pure fun c mem => ?_
    rw [List.append_nil]
    rcases List.mem_cons.mp mem with rfl | mem
    · exact grows (List.subset_append_left added more) first
    · exact grows (List.subset_append_right added more) (rest c mem)

end Draws

abbrev DrawsOk (m : StateM (σ × Receipts c) (Except ε α)) (Q : Receipts c → α → Prop) : Prop :=
  Draws m fun added outcome => ∀ a, outcome = .ok a → Q added a

theorem DrawsOk.ok {Q : Receipts c → α → Prop} {a : α} (h : Q [] a) :
    DrawsOk (pure (.ok a : Except ε α)) Q := by
  refine .pure fun b same => ?_
  cases same
  exact h

theorem DrawsOk.error (e : ε) (Q : Receipts c → α → Prop) : DrawsOk (pure (.error e)) Q :=
  .pure fun _ same => by cases same

namespace Cluster

variable (c : Cluster σ) (r : Resource) (ns : Option String)

theorem draws_get (name : String) :
    DrawsOk (c.receipted.get r ns name) fun added o => added.Return r o := by
  rintro ⟨s, receipts⟩
  refine ⟨_, rfl, fun o ok => ⟨_, List.mem_singleton_self _, rfl, ?_⟩⟩
  change ((c.get r ns name).run s).1 = .ok o at ok
  change o ∈ ((c.get r ns name).run s).1.toOption.toList
  rw [ok]
  exact List.mem_singleton_self o

theorem draws_list :
    DrawsOk (c.receipted.list r ns) fun added objects => ∀ o ∈ objects, added.Return r o := by
  rintro ⟨s, receipts⟩
  refine ⟨_, rfl, fun objects ok o mem => ⟨_, List.mem_singleton_self _, rfl, ?_⟩⟩
  change ((c.list r ns).run s).1 = .ok objects at ok
  change o ∈ ((c.list r ns).run s).1.toOption.getD []
  rw [ok]
  exact mem

end Cluster

end StatusWatch
