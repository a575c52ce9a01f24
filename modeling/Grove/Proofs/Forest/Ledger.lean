/-
What has happened to a manager, event by event. A request that builds a model is two
events, the number and the registration, with any others between them: those of the
requests its feed makes, and those of other requests and releases.

The events of a manager account for its tables (`Accounted`). A model becomes live or
released only after it was registered, under a number that was given out for it alone;
so whatever the order of events is, a registration meets a free number, and a release
meets the model it is about (`History.sound`).
-/
import Grove.Proofs.Forest.Consistent

namespace Grove.Manager

/-- Something that happens to a manager at once. -/
inductive Event where
  /-- The resolver was asked. -/
  | asked
  /-- A number was given out. -/
  | numbered (id : ModelId)
  /-- A request was answered with the live model that is shared. -/
  | shared (key : String) (ref : ModelRef)
  /-- A request was answered with a released model. -/
  | revived (key : String) (ref : ModelRef)
  /-- A request was answered after a model was built for it, with that model or, for a
  shared request, with one that has become the shared one in the meantime. -/
  | registered (key : Option String) (ref given : ModelRef)
  | released (ref : ModelRef) (force discarded : Bool)

/-- The model that is given out. -/
def Event.given? : Event → Option ModelRef
  | .shared _ ref | .revived _ ref | .registered _ _ ref => some ref
  | .asked | .numbered _ | .released _ _ _ => none

/-- What a request asked for that is answered: the model that is shared for a system
identifier, or a model of its own. -/
def Event.requested? : Event → Option (Option String)
  | .shared key _ | .revived key _ => some (some key)
  | .registered key _ _ => some key
  | .asked | .numbered _ | .released _ _ _ => none

inductive Step : Manager → Event → Manager → Prop
  | asked {m : Manager} : Step m .asked { m with resolverCalls := m.resolverCalls + 1 }
  | numbered {m m' : Manager} {id : ModelId} : m.allocate = .ok (id, m') → Step m (.numbered id) m'
  | shared {m : Manager} {key : String} {ref : ModelRef} :
      m.shared? key = some ref → Step m (.shared key ref) m
  | revived {m m' : Manager} {key : String} {ref : ModelRef} :
      m.shared? key = none → m.revive? key = some (ref, m') → Step m (.revived key ref) m'
  | registered {m : Manager} (key : Option String) (ref : ModelRef) :
      Step m (.registered key ref (m.register key ref).1) (m.register key ref).2
  | released {m : Manager} (ref : ModelRef) (force : Bool) :
      Step m (.released ref force (m.release ref force).1) (m.release ref force).2

/-- What may happen after some events, the latest first: a model is registered under a
number given out for it, and for its own system identifier if for any; and a model is
released that was given out. -/
def Due (log : List Event) : Event → Prop
  | .registered key ref _ => .numbered ref.id ∈ log ∧
      (∀ key' ref' given, .registered key' ref' given ∈ log → ref'.id ≠ ref.id) ∧
      ∀ k, key = some k → ref.systemId = some k
  | .released ref _ _ => ∃ e ∈ log, e.given? = some ref
  | .asked | .numbered _ | .shared _ _ | .revived _ _ => True

/-- A manager after some events, the latest first. -/
inductive History (m₀ : Manager) : List Event → Manager → Prop
  | start : History m₀ [] m₀
  | step {log : List Event} {m m' : Manager} {e : Event} :
      History m₀ log m → Due log e → Step m e m' → History m₀ (e :: log) m'

/-- A model was registered and given out. -/
def Made (log : List Event) (ref : ModelRef) : Prop := ∃ key, .registered key ref ref ∈ log

/-- The events that led to a manager account for what it holds and gave out. -/
structure Accounted (log : List Event) (m : Manager) : Prop where
  live : ∀ id ref, m.live.get? id = some ref → Made log ref
  released : ∀ key ref, (key, ref) ∈ m.released → Made log ref
  given : ∀ e ∈ log, ∀ ref, e.given? = some ref → Made log ref

variable {m₀ m m' : Manager} {log : List Event} {e : Event} {ref : ModelRef} {capacity : Nat}

theorem Made.cons (h : Made log ref) (e : Event) : Made (e :: log) ref :=
  h.imp fun _ hmem => List.mem_cons_of_mem _ hmem

/-! ## One event -/

theorem shared?_eq_some {key : String} (h : m.shared? key = some ref) :
    ∃ id, m.canonical.get? key = some id ∧ m.live.get? id = some ref :=
  Option.bind_eq_some_iff.1 h

namespace Step

theorem nextId (h : Step m e m') :
    (∃ id, e = .numbered id ∧ id.val = m.nextId ∧ m.nextId < m'.nextId) ∨
      (∀ id, e ≠ .numbered id) ∧ m'.nextId = m.nextId := by
  cases h with
  | numbered hid =>
    obtain ⟨hval, hnext, -⟩ := allocate_eq_ok hid
    exact .inl ⟨_, rfl, hval, hnext⟩
  | asked => exact .inr ⟨by simp, rfl⟩
  | shared _ => exact .inr ⟨by simp, rfl⟩
  | revived _ hrevive =>
    obtain ⟨pool, -, -, rfl⟩ := revive?_eq_some hrevive
    exact .inr ⟨by simp, rfl⟩
  | registered key ref =>
    refine .inr ⟨by simp, ?_⟩
    rcases register_cases m key ref with ⟨-, heq⟩ | ⟨k, -, -, heq⟩ | ⟨k, existing, -, -, heq⟩ <;>
      exact congrArg (·.2.nextId) heq
  | released ref force =>
    refine .inr ⟨by simp, ?_⟩
    rcases release_cases m ref force with ⟨-, heq⟩ | ⟨-, heq⟩ | ⟨-, key, pool, -, -, -, heq⟩ <;>
      exact congrArg (·.2.nextId) heq

/-- A model that is live was so before, or was just given out. -/
theorem live (h : Step m e m') {id : ModelId} (hlive : m'.live.get? id = some ref) :
    m.live.get? id = some ref ∨ e.given? = some ref := by
  have hinsert : ∀ r : ModelRef, (m.live.insert r.id r).get? id = some ref →
      m.live.get? id = some ref ∨ some r = some ref := fun r hr =>
    (Table.eq_some_of_insert hr).elim (fun hnew => .inr (congrArg some hnew.2)) .inl
  cases h with
  | asked => exact .inl hlive
  | shared _ => exact .inl hlive
  | numbered hid =>
    obtain ⟨-, -, heq⟩ := allocate_eq_ok hid
    rw [heq] at hlive
    exact .inl hlive
  | revived _ hrevive =>
    obtain ⟨pool, -, -, rfl⟩ := revive?_eq_some hrevive
    exact hinsert _ hlive
  | registered key r =>
    rcases register_cases m key r with ⟨-, heq⟩ | ⟨k, -, -, heq⟩ | ⟨k, existing, -, -, heq⟩ <;>
      rw [heq] at hlive ⊢
    · exact hinsert _ hlive
    · exact hinsert _ hlive
    · exact .inl hlive
  | released r force =>
    rcases release_cases m r force with ⟨-, heq⟩ | ⟨-, heq⟩ | ⟨-, key, pool, -, -, -, heq⟩ <;>
      rw [heq] at hlive
    · exact .inl hlive
    · exact .inl (Table.eq_some_of_erase hlive).2
    · exact .inl (Table.eq_some_of_erase hlive).2

/-- A model that is given out was live or released before, or was just registered. -/
theorem given (h : Step m e m') (hgiven : e.given? = some ref) :
    (∃ key, e = .registered key ref ref) ∨ (∃ id, m.live.get? id = some ref) ∨
      ∃ key, (key, ref) ∈ m.released := by
  cases h with
  | asked => simp [Event.given?] at hgiven
  | numbered _ => simp [Event.given?] at hgiven
  | released _ _ => simp [Event.given?] at hgiven
  | shared hshared =>
    obtain rfl := Option.some_inj.1 hgiven
    obtain ⟨id, -, hlive⟩ := shared?_eq_some hshared
    exact .inr (.inl ⟨id, hlive⟩)
  | @revived _ key _ _ hrevive =>
    obtain rfl := Option.some_inj.1 hgiven
    obtain ⟨pool, hpool, hget, -⟩ := revive?_eq_some hrevive
    exact .inr (.inr ⟨key, released_of_some hpool ▸ RecencyList.mem_of_get? hget⟩)
  | registered key r =>
    obtain rfl := Option.some_inj.1 hgiven
    rcases register_cases m key r with ⟨-, heq⟩ | ⟨k, -, -, heq⟩ | ⟨k, existing, -, hshared, heq⟩ <;>
      rw [heq]
    · exact .inl ⟨key, rfl⟩
    · exact .inl ⟨key, rfl⟩
    · obtain ⟨id, -, hlive⟩ := shared?_eq_some hshared
      exact .inr (.inl ⟨id, hlive⟩)

/-- A released model was so before, or was just released. -/
theorem pooled {key : String} (h : Step m e m') (hcons : m.Consistent capacity)
    (hreleased : (key, ref) ∈ m'.released) :
    (key, ref) ∈ m.released ∨ ∃ force discarded, e = .released ref force discarded := by
  cases h with
  | asked => exact .inl hreleased
  | shared _ => exact .inl hreleased
  | numbered hid =>
    obtain ⟨-, -, heq⟩ := allocate_eq_ok hid
    rw [heq] at hreleased
    exact .inl hreleased
  | revived _ hrevive =>
    obtain ⟨pool, hpool, -, rfl⟩ := revive?_eq_some hrevive
    exact .inl (released_of_some hpool ▸ (RecencyList.mem_without.1 hreleased).1)
  | registered k r =>
    rcases register_cases m k r with ⟨-, heq⟩ | ⟨k, -, -, heq⟩ | ⟨k, existing, -, -, heq⟩ <;>
      rw [heq] at hreleased <;> exact .inl hreleased
  | released r force =>
    rcases release_cases m r force with ⟨-, heq⟩ | ⟨-, heq⟩ | ⟨-, k, pool, -, hpool, -, heq⟩ <;>
      rw [heq] at hreleased
    · exact .inl hreleased
    · exact .inl hreleased
    · have hput := (hcons.pool_of_some hpool).2.put_spec k r
      rcases (hput.mem_iff _).1 hreleased with hr | ⟨hr, -⟩
      · obtain ⟨-, rfl⟩ := Prod.mk.inj hr
        exact .inr ⟨force, _, rfl⟩
      · exact .inl (released_of_some hpool ▸ hr)

end Step

/-! ## All events -/

namespace History

theorem before : ∀ {more : List Event} {m : Manager}, History m₀ (more ++ log) m →
    ∃ m', History m₀ log m'
  | [], m, h => ⟨m, h⟩
  | _ :: _, _, .step h _ _ => h.before

theorem numbered_lt (h : History m₀ log m) {id : ModelId} (hid : .numbered id ∈ log) :
    id.val < m.nextId := by
  induction h with
  | start => simp at hid
  | step _ _ hstep ih =>
    rcases hstep.nextId with ⟨id', rfl, hval, hnext⟩ | ⟨hne, heq⟩
    · rcases List.mem_cons.1 hid with heq | hid
      · cases heq
        exact hval ▸ hnext
      · exact UInt32.lt_trans (ih hid) hnext
    · rw [heq]
      exact ih ((List.mem_cons.1 hid).resolve_left (hne id ·.symm))

/-- A number is given out once. -/
theorem numbered_once {id : ModelId} : ∀ {more : List Event} {m : Manager},
    History m₀ (more ++ log) m → .numbered id ∈ log → .numbered id ∉ more
  | [], _, _, _ => by simp
  | e :: more, m, h, hid => by
    cases h with
    | step h _ hstep =>
      rintro (_ | ⟨_, hmore⟩)
      · have hlt := h.numbered_lt (List.mem_append_right more hid)
        rcases hstep.nextId with ⟨id', heq, hval, -⟩ | ⟨hne, -⟩
        · cases heq
          exact UInt32.lt_irrefl _ (hval ▸ hlt)
        · exact hne id rfl
      · exact numbered_once h hid hmore

theorem numbered_of_registered (h : History m₀ log m) {key : Option String} {given : ModelRef}
    (hmem : .registered key ref given ∈ log) : .numbered ref.id ∈ log := by
  induction h with
  | start => simp at hmem
  | step _ hdue _ ih =>
    refine List.mem_cons_of_mem _ ?_
    rcases List.mem_cons.1 hmem with rfl | hmem
    · exact hdue.1
    · exact ih hmem

/-- One model is registered under a number. -/
theorem registered_once (h : History m₀ log m) {key key' : Option String} {ref' given given' : ModelRef}
    (hmem : .registered key ref given ∈ log) (hmem' : .registered key' ref' given' ∈ log)
    (hid : ref.id = ref'.id) : ref = ref' := by
  induction h with
  | start => simp at hmem
  | step _ hdue _ ih =>
    rcases List.mem_cons.1 hmem with rfl | hlog <;> rcases List.mem_cons.1 hmem' with heq | hlog'
    · cases heq
      rfl
    · exact absurd hid.symm (hdue.2.1 _ _ _ hlog')
    · cases heq
      exact absurd hid (hdue.2.1 _ _ _ hlog)
    · exact ih hlog hlog'

theorem eq_of_made (h : History m₀ log m) {ref' : ModelRef} (hmade : Made log ref)
    (hmade' : Made log ref') (hid : ref.id = ref'.id) : ref = ref' := by
  obtain ⟨key, hmem⟩ := hmade
  obtain ⟨key', hmem'⟩ := hmade'
  exact h.registered_once hmem hmem' hid

end History

namespace Accounted

theorem start (factory : Factory) (resolver : Option Resolver) (capacity : Nat) :
    Accounted [] (ofFactory factory resolver capacity) :=
  ⟨by simp [ofFactory], by simp [released_ofFactory], by simp⟩

theorem step (h : Accounted log m) (hcons : m.Consistent capacity) (hdue : Due log e)
    (hstep : Step m e m') : Accounted (e :: log) m' := by
  have hgiven : ∀ ref, e.given? = some ref → Made (e :: log) ref := by
    intro ref hgiven
    rcases hstep.given hgiven with ⟨key, rfl⟩ | ⟨id, hlive⟩ | ⟨key, hreleased⟩
    · exact ⟨key, List.mem_cons_self⟩
    · exact (h.live id ref hlive).cons e
    · exact (h.released key ref hreleased).cons e
  refine ⟨fun id ref hlive => ?_, fun key ref hreleased => ?_, fun e' he' ref hgiven' => ?_⟩
  · rcases hstep.live hlive with hlive | hnew
    · exact (h.live id ref hlive).cons e
    · exact hgiven ref hnew
  · rcases hstep.pooled hcons hreleased with hreleased | ⟨force, discarded, rfl⟩
    · exact (h.released key ref hreleased).cons e
    · obtain ⟨e', he', hgiven'⟩ := hdue
      exact (h.given e' he' ref hgiven').cons _
  · rcases List.mem_cons.1 he' with rfl | he'
    · exact hgiven ref hgiven'
    · exact (h.given e' he' ref hgiven').cons e

/-- A number under which nothing was registered is free. -/
theorem free (h : Accounted log m) (hcons : m.Consistent capacity) {id : ModelId}
    (hid : id.val < m.nextId)
    (hnew : ∀ key ref given, .registered key ref given ∈ log → ref.id ≠ id) : m.Free id where
  not_live := by
    by_contra hlive
    obtain ⟨held, hheld⟩ := Option.ne_none_iff_exists'.1 hlive
    obtain ⟨key, hmem⟩ := h.live id held hheld
    exact hnew _ _ _ hmem (hcons.filed id held hheld)
  not_released := by
    by_contra hreleased
    obtain ⟨key, hkey⟩ := Option.ne_none_iff_exists'.1 hreleased
    obtain ⟨ref, href, hrefid⟩ := (hcons.inverse id key).1 hkey
    obtain ⟨key', hmem⟩ := h.released key ref href
    exact hnew _ _ _ hmem hrefid
  given := hid

/-- A live model of the number of one that was given out is that one. -/
theorem eq_of_live (hacc : Accounted log m) (hcons : m.Consistent capacity) (h : History m₀ log m)
    (hgiven : ∃ e ∈ log, e.given? = some ref) {held : ModelRef}
    (hheld : m.live.get? ref.id = some held) : held = ref := by
  obtain ⟨e, he, hgiven⟩ := hgiven
  exact h.eq_of_made (hacc.live _ held hheld) (hacc.given e he ref hgiven) (hcons.filed _ held hheld)

end Accounted

theorem Consistent.step (hcons : m.Consistent capacity) (hacc : Accounted log m)
    (h : History m₀ log m) (hdue : Due log e) (hstep : Step m e m') : m'.Consistent capacity := by
  cases hstep with
  | asked => exact hcons.asked
  | shared _ => exact hcons
  | numbered hid => exact hcons.allocate hid
  | revived _ hrevive => exact hcons.revive? hrevive
  | registered key ref => exact hcons.register (hacc.free hcons (h.numbered_lt hdue.1) hdue.2.1) hdue.2.2
  | released ref force => exact hcons.release (fun _ => hacc.eq_of_live hcons h hdue) force

/-- Whatever happens to a manager, its tables agree and are accounted for. -/
theorem History.sound {factory : Factory} {resolver : Option Resolver}
    (h : (ofFactory factory resolver capacity).History log m) :
    m.Consistent capacity ∧ Accounted log m := by
  induction h with
  | start => exact ⟨.ofFactory factory resolver capacity, .start factory resolver capacity⟩
  | step h hdue hstep ih =>
    obtain ⟨hcons, hacc⟩ := ih
    exact ⟨hcons.step hacc h hdue hstep, hacc.step hcons hdue hstep⟩

/-! ## The events of requests -/

/-- Events of requests alone, whatever they are nested in: models are registered under
numbers given out in the meantime, and none is released. -/
structure Requests (more : List Event) : Prop where
  own : ∀ key ref given, .registered key ref given ∈ more → .numbered ref.id ∈ more
  kept : ∀ ref force discarded, .released ref force discarded ∉ more

namespace Requests

variable {more more' : List Event}

theorem nil : Requests [] := ⟨by simp, by simp⟩

theorem asked : Requests [.asked] := ⟨by simp, by simp⟩

theorem numbered {id : ModelId} : Requests [.numbered id] := ⟨by simp, by simp⟩

theorem shared {key : String} : Requests [.shared key ref] := ⟨by simp, by simp⟩

theorem revived {key : String} : Requests [.revived key ref] := ⟨by simp, by simp⟩

theorem append (h' : Requests more') (h : Requests more) : Requests (more' ++ more) where
  own := by
    intro key ref given hmem
    rcases List.mem_append.1 hmem with hmem | hmem
    · exact List.mem_append_left _ (h'.own key ref given hmem)
    · exact List.mem_append_right _ (h.own key ref given hmem)
  kept := by
    intro ref force discarded hmem
    rcases List.mem_append.1 hmem with hmem | hmem
    · exact h'.kept ref force discarded hmem
    · exact h.kept ref force discarded hmem

/-- A request that builds a model: its number, events of other requests, and the
registration. -/
theorem registered (h : Requests more) (key : Option String) (ref given : ModelRef) :
    Requests (.registered key ref given :: more ++ [.numbered ref.id]) where
  own := by
    intro key' ref' given' hmem
    simp only [List.cons_append, List.mem_cons, List.mem_append, List.not_mem_nil, or_false,
      reduceCtorEq, false_or] at hmem ⊢
    rcases hmem with heq | hmem
    · cases heq
      exact .inr rfl
    · exact .inl (h.own key' ref' given' hmem)
  kept := by
    intro ref force discarded hmem
    simp only [List.cons_append, List.mem_cons, List.mem_append, List.not_mem_nil, or_false,
      reduceCtorEq, false_or] at hmem
    exact h.kept ref force discarded hmem

end Requests

/-- A model that is given out is live. -/
theorem Step.live_of_given (h : Step m e m') (hcons : m.Consistent capacity)
    (hgiven : e.given? = some ref) : m'.live.get? ref.id = some ref := by
  have hshared : ∀ {key : String} {r : ModelRef}, m.shared? key = some r →
      m.live.get? r.id = some r := by
    intro key r hshared
    obtain ⟨id, -, hlive⟩ := shared?_eq_some hshared
    exact hcons.filed id r hlive ▸ hlive
  cases h with
  | asked => simp [Event.given?] at hgiven
  | numbered _ => simp [Event.given?] at hgiven
  | released _ _ => simp [Event.given?] at hgiven
  | shared h =>
    obtain rfl := Option.some_inj.1 hgiven
    exact hshared h
  | revived _ hrevive =>
    obtain rfl := Option.some_inj.1 hgiven
    obtain ⟨pool, -, -, rfl⟩ := revive?_eq_some hrevive
    exact Table.get?_insert_self _ _ _
  | registered key r =>
    obtain rfl := Option.some_inj.1 hgiven
    rcases register_cases m key r with ⟨-, heq⟩ | ⟨k, -, -, heq⟩ | ⟨k, existing, -, h, heq⟩ <;>
      rw [heq]
    · exact Table.get?_insert_self _ _ _
    · exact Table.get?_insert_self _ _ _
    · exact hshared h

/-- A model that is live stays so unless it is released. -/
theorem Step.still_live {id : ModelId} (hstep : Step m e m') (hcons : m.Consistent capacity)
    (hacc : Accounted log m) (h : History m₀ log m) (hdue : Due log e)
    (hkept : ∀ ref force discarded, e ≠ .released ref force discarded)
    (hlive : m.live.get? id = some ref) : m'.live.get? id = some ref := by
  have hinsert : ∀ r : ModelRef, m.live.get? r.id = none →
      (m.live.insert r.id r).get? id = some ref := by
    intro r hr
    rw [Table.get?_insert_other]
    · exact hlive
    · rintro rfl
      simp [hr] at hlive
  cases hstep with
  | asked => exact hlive
  | shared _ => exact hlive
  | released ref force => exact absurd rfl (hkept ref force _)
  | numbered hid =>
    obtain ⟨-, -, heq⟩ := allocate_eq_ok hid
    rw [heq]
    exact hlive
  | revived _ hrevive =>
    obtain ⟨pool, hpool, hget, rfl⟩ := revive?_eq_some hrevive
    exact hinsert _ (hcons.not_live_of_released hpool (RecencyList.mem_of_get? hget))
  | registered key r =>
    have hfree := hacc.free hcons (h.numbered_lt hdue.1) hdue.2.1
    rcases register_cases m key r with ⟨-, heq⟩ | ⟨k, -, -, heq⟩ | ⟨k, existing, -, -, heq⟩ <;>
      rw [heq]
    · exact hinsert _ hfree.not_live
    · exact hinsert _ hfree.not_live
    · exact hlive

/-- What was given out by requests is live when they are over. -/
theorem History.live_of_given {factory : Factory} {resolver : Option Resolver} : ∀ {more : List Event}
    {m : Manager}, (ofFactory factory resolver capacity).History (more ++ log) m →
    (∀ ref force discarded, .released ref force discarded ∉ more) →
    ∀ e ∈ more, e.given? = some ref → m.live.get? ref.id = some ref
  | [], _, _, _, e, he, _ => by simp at he
  | _ :: more, m, .step h hdue hstep, hkept, e, he, hgiven => by
    obtain ⟨hcons, hacc⟩ := h.sound
    rcases List.mem_cons.1 he with rfl | he
    · exact hstep.live_of_given hcons hgiven
    · have hlive := h.live_of_given (fun r force d hmem => hkept r force d (List.mem_cons_of_mem _ hmem))
        e he hgiven
      exact hstep.still_live hcons hacc h hdue
        (fun r force d heq => hkept r force d (heq ▸ List.mem_cons_self)) hlive

/-- Nothing was registered under a number that a request waits to use. -/
theorem History.unregistered {more : List Event} {id : ModelId}
    (h : History m₀ (more ++ .numbered id :: log) m) (hmore : Requests more) :
    ∀ key ref given, .registered key ref given ∈ more ++ .numbered id :: log → ref.id ≠ id := by
  rintro key ref given hmem rfl
  -- a registration has its number among the same events, so the number would have been
  -- given out twice
  rcases List.mem_append.1 hmem with hmem | hmem
  · exact h.numbered_once List.mem_cons_self (hmore.own key ref given hmem)
  · obtain ⟨m', h'⟩ := h.before
    cases h' with
    | step h' hdue hstep =>
      have hlog := h'.numbered_of_registered (List.mem_of_ne_of_mem (by simp) hmem)
      have honce : History m₀ ([.numbered ref.id] ++ log) m' := h'.step hdue hstep
      exact honce.numbered_once hlog List.mem_cons_self

end Grove.Manager
