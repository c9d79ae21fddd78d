import DataGrid.Backend.Term
import Mathlib.Data.List.Forall2

/-!
# Simulations between backends

A simulation relates the columns, values, patterns and predicates of two backends so that every
operation takes related arguments to related results. What is put together from such operations is
then related as well: here the predicates of a term (`Term.build_alike`), in `Proofs.Filter.Simulation`
those of a filter model. A property of the predicates of one backend is the diagonal case.
-/

namespace DataGrid

/-- Two related results, or two failures. -/
inductive Alike {ε ε' α α' : Type} (r : α → α' → Prop) : Except ε α → Except ε' α' → Prop
  | ok {a : α} {a' : α'} (h : r a a') : Alike r (.ok a) (.ok a')
  | error (e : ε) (e' : ε') : Alike r (.error e) (.error e')

namespace Alike
variable {ε ε' α α' β β' : Type} {r : α → α' → Prop} {s : β → β' → Prop}
variable {x : Except ε α} {x' : Except ε' α'}

theorem bind {f : α → Except ε β} {f' : α' → Except ε' β'} (h : Alike r x x')
    (hf : ∀ a a', r a a' → Alike s (f a) (f' a')) : Alike s (x >>= f) (x' >>= f') := by
  cases h with
  | ok h => exact hf _ _ h
  | error e e' => exact .error e e'

theorem mapError {δ δ' : Type} {f : ε → δ} {f' : ε' → δ'} (h : Alike r x x') :
    Alike r (x.mapError f) (x'.mapError f') := by
  cases h with
  | ok h => exact .ok h
  | error e e' => exact .error _ _

/-- A result is alike to itself. -/
theorem refl {r : α → α → Prop} (hr : ∀ a, r a a) (x : Except ε α) : Alike r x x := by
  cases x with
  | error e => exact .error e e
  | ok a => exact .ok (hr a)

end Alike

/-- The kind of the columns that a value is compared with as they are. -/
def Value.kind : Value → ColumnKind
  | .text _ => .text
  | .number _ => .number
  | .bool _ => .boolean
  | .dateTime _ => .dateTime

/-- The value is of the kind that a column is looked at by. -/
def Value.Fits : Value → ColumnKind → Prop
  | .text _, kind => kind = .text ∨ kind = .coerced
  | .number _, kind => kind = .number
  | .bool _, kind => kind = .boolean
  | .dateTime _, kind => kind = .dateTime

namespace Backend
variable {γ π γ' π' : Type}

/-- Relations between the parts of two backends that all operations keep. Only values and patterns
that fit their column count. -/
structure Simulation (left : Backend γ π) (right : Backend γ' π') where
  column : ColumnKind → γ → γ' → Prop
  value : Value → Value → Prop
  pattern : String → String → Prop
  predicate : π → π' → Prop
  value_refl : ∀ v, value v v
  compare : ∀ comparison {kind c c' v v'}, column kind c c' → v.Fits kind → value v v' →
    predicate (left.compare comparison c v) (right.compare comparison c' v')
  like : ∀ negated {kind c c' p p'}, column kind c c' → (Value.text p).Fits kind → pattern p p' →
    predicate (left.like negated c p) (right.like negated c' p')
  null : ∀ negated {kind c c'}, column kind c c' →
    predicate (left.null negated c) (right.null negated c')
  all : ∀ {ps ps'}, List.Forall₂ predicate ps ps' → predicate (left.all ps) (right.all ps')
  any : ∀ {ps ps'}, List.Forall₂ predicate ps ps' → predicate (left.any ps) (right.any ps')
  always : predicate left.always right.always

namespace Simulation
variable {left : Backend γ π} {right : Backend γ' π'}

/-- Both backends have related columns under this id, or both have none. -/
def Resolves (S : Simulation left right) (id : String) : Prop :=
  ∀ kind, Alike (S.column kind) (left.column id kind) (right.column id kind)

end Simulation

/-- A property of the predicates of a backend that all operations keep, as long as columns have one. -/
structure Invariant (backend : Backend γ π) where
  column : γ → Prop
  predicate : π → Prop
  compare : ∀ comparison {c} v, column c → predicate (backend.compare comparison c v)
  like : ∀ negated {c} p, column c → predicate (backend.like negated c p)
  null : ∀ negated {c}, column c → predicate (backend.null negated c)
  all : ∀ {ps}, (∀ p ∈ ps, predicate p) → predicate (backend.all ps)
  any : ∀ {ps}, (∀ p ∈ ps, predicate p) → predicate (backend.any ps)
  always : predicate backend.always

theorem eq_and_forall_of_forall₂ {P : π → Prop} {ps ps' : List π}
    (h : List.Forall₂ (fun p p' => p = p' ∧ P p) ps ps') : ps = ps' ∧ ∀ p ∈ ps, P p := by
  induction h with
  | nil => exact ⟨rfl, by simp⟩
  | cons h _ ih =>
    obtain ⟨rfl, hp⟩ := h
    obtain ⟨rfl, ih⟩ := ih
    exact ⟨rfl, List.forall_mem_cons.2 ⟨hp, ih⟩⟩

/-- An invariant relates each predicate to itself. -/
def Invariant.simulation {backend : Backend γ π} (I : Invariant backend) :
    Simulation backend backend where
  column _ c c' := c = c' ∧ I.column c
  value := Eq
  pattern := Eq
  predicate p p' := p = p' ∧ I.predicate p
  value_refl _ := rfl
  compare := by
    rintro comparison kind c _ v _ ⟨rfl, hc⟩ - rfl
    exact ⟨rfl, I.compare comparison v hc⟩
  like := by
    rintro negated kind c _ p _ ⟨rfl, hc⟩ - rfl
    exact ⟨rfl, I.like negated p hc⟩
  null := by
    rintro negated kind c _ ⟨rfl, hc⟩
    exact ⟨rfl, I.null negated hc⟩
  all := by
    intro ps ps' h
    obtain ⟨rfl, hp⟩ := eq_and_forall_of_forall₂ h
    exact ⟨rfl, I.all hp⟩
  any := by
    intro ps ps' h
    obtain ⟨rfl, hp⟩ := eq_and_forall_of_forall₂ h
    exact ⟨rfl, I.any hp⟩
  always := ⟨rfl, I.always⟩

namespace Term

mutual

/-- The ids of the columns that a term names. -/
def ids : Term → List String
  | .always => []
  | .compare _ id _ _ => [id]
  | .like _ id _ _ => [id]
  | .null _ id _ => [id]
  | .all terms => listIds terms
  | .any terms => listIds terms

def listIds : List Term → List String
  | [] => []
  | term :: terms => term.ids ++ listIds terms

end

mutual

/-- Values are of the kind that their column is looked at by, and only text is matched. -/
def WellKinded : Term → Prop
  | .always => True
  | .compare _ _ kind value => value.Fits kind
  | .like _ _ kind pattern => (Value.text pattern).Fits kind
  | .null _ _ _ => True
  | .all terms => ListWellKinded terms
  | .any terms => ListWellKinded terms

def ListWellKinded : List Term → Prop
  | [] => True
  | term :: terms => term.WellKinded ∧ ListWellKinded terms

end

end Term

section
variable {left : Backend γ π} {right : Backend γ' π'}

mutual

/-- Building one term over two backends gives related predicates, or fails twice. -/
theorem build_alike (S : Simulation left right) (hp : ∀ p, S.pattern p p) :
    ∀ t : Term, t.WellKinded → (∀ id ∈ t.ids, S.Resolves id) →
      Alike S.predicate (build left t) (build right t)
  | .always, _, _ => .ok S.always
  | .compare comparison id kind v, hk, hid =>
    (hid id (List.mem_singleton_self id) kind).bind fun _ _ hc =>
      .ok (S.compare comparison hc hk (S.value_refl v))
  | .like negated id kind p, hk, hid =>
    (hid id (List.mem_singleton_self id) kind).bind fun _ _ hc => .ok (S.like negated hc hk (hp p))
  | .null negated id kind, _, hid =>
    (hid id (List.mem_singleton_self id) kind).bind fun _ _ hc => .ok (S.null negated hc)
  | .all ts, hk, hid => (buildAll_alike S hp ts hk hid).bind fun _ _ hps => .ok (S.all hps)
  | .any ts, hk, hid => (buildAll_alike S hp ts hk hid).bind fun _ _ hps => .ok (S.any hps)

theorem buildAll_alike (S : Simulation left right) (hp : ∀ p, S.pattern p p) :
    ∀ ts : List Term, Term.ListWellKinded ts → (∀ id ∈ Term.listIds ts, S.Resolves id) →
      Alike (List.Forall₂ S.predicate) (buildAll left ts) (buildAll right ts)
  | [], _, _ => .ok .nil
  | t :: ts, hk, hid => by
    have ht := build_alike S hp t hk.1 fun id h => hid id (List.mem_append_left _ h)
    have hts := buildAll_alike S hp ts hk.2 fun id h => hid id (List.mem_append_right _ h)
    exact ht.bind fun _ _ hp' => hts.bind fun _ _ hps => .ok (.cons hp' hps)

end

mutual

/-- A term that names columns of the backend only has a predicate. -/
theorem exists_build {backend : Backend γ π} :
    ∀ t : Term, (∀ id ∈ t.ids, ∀ kind, ∃ c, backend.column id kind = .ok c) →
      ∃ p, build backend t = .ok p
  | .always, _ => ⟨_, rfl⟩
  | .compare _ id kind _, h | .like _ id kind _, h | .null _ id kind, h => by
    obtain ⟨c, hc⟩ := h id (List.mem_singleton_self id) kind
    exact ⟨_, by rw [build, hc]; rfl⟩
  | .all ts, h | .any ts, h => by
    obtain ⟨ps, hps⟩ := exists_buildAll ts h
    exact ⟨_, by rw [build, hps]; rfl⟩

theorem exists_buildAll {backend : Backend γ π} :
    ∀ ts : List Term, (∀ id ∈ Term.listIds ts, ∀ kind, ∃ c, backend.column id kind = .ok c) →
      ∃ ps, buildAll backend ts = .ok ps
  | [], _ => ⟨_, rfl⟩
  | t :: ts, h => by
    obtain ⟨p, hp⟩ := exists_build t fun id hid => h id (List.mem_append_left _ hid)
    obtain ⟨ps, hps⟩ := exists_buildAll ts fun id hid => h id (List.mem_append_right _ hid)
    exact ⟨p :: ps, by rw [buildAll, hp, hps]; rfl⟩

end

end

end Backend

end DataGrid
