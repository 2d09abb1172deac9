import FlinkCluster.Error

/-!
# Successful outcomes

What is known when a computation that may fail has a result: each of its parts had one. Proofs take
a successful computation apart with these lemmas, one part at a time, in the order in which it ran.
-/

set_option autoImplicit false

namespace FlinkCluster.Outcome

variable {α β : Type} {x : Outcome α}

theorem bind_ok {f : α → Outcome β} {b : β} (h : x >>= f = .ok b) :
    ∃ a, x = .ok a ∧ f a = .ok b := by
  cases x with
  | ok a => exact ⟨a, rfl, h⟩
  | error e => cases h

theorem map_ok {f : α → β} {b : β} (h : x.map f = .ok b) : ∃ a, x = .ok a ∧ f a = b := by
  cases x with
  | ok a => exact ⟨a, rfl, Except.ok.inj h⟩
  | error e => cases h

theorem pure_ok {a b : α} (h : (pure a : Outcome α) = .ok b) : a = b := Except.ok.inj h

/-- Each result is that of one of the computations, and there are as many. -/
theorem mapM_ok {α β : Type} {f : α → Outcome β} {xs : List α} {ys : List β}
    (h : xs.mapM f = .ok ys) : ys.length = xs.length ∧ ∀ y ∈ ys, ∃ x ∈ xs, f x = .ok y := by
  induction xs generalizing ys with
  | nil =>
    obtain rfl := pure_ok h
    exact ⟨rfl, nofun⟩
  | cons x xs ih =>
    rw [List.mapM_cons] at h
    obtain ⟨y, hy, h⟩ := bind_ok h
    obtain ⟨zs, hzs, h⟩ := bind_ok h
    obtain rfl := pure_ok h
    obtain ⟨hlength, hmem⟩ := ih hzs
    refine ⟨by simp [hlength], fun z hz => ?_⟩
    obtain rfl | hz := List.mem_cons.1 hz
    · exact ⟨x, List.mem_cons_self, hy⟩
    · obtain ⟨x', hx', hz⟩ := hmem z hz
      exact ⟨x', List.mem_cons_of_mem x hx', hz⟩

theorem mapM_map_ok {α β : Type} {f : α → Outcome β} {g : β → α} {ys : List β}
    (h : ∀ y ∈ ys, f (g y) = .ok y) : (ys.map g).mapM f = .ok ys := by
  induction ys with
  | nil => rfl
  | cons y ys ih =>
    rw [List.map_cons, List.mapM_cons, h y List.mem_cons_self,
      ih fun z hz => h z (List.mem_cons_of_mem y hz)]
    rfl

theorem exists_of_isOk (h : x.isOk = true) : ∃ a, x = .ok a := by
  cases x with
  | ok a => exact ⟨a, rfl⟩
  | error e => cases h

theorem misconfigured_ne_ok {fault : ConfigurationFault} {key clusterId : Option String} {a : α} :
    misconfigured fault key clusterId ≠ .ok a := nofun

end FlinkCluster.Outcome
