import RouteGuard.Escrow.MockLedger

/-!
# Authorization hashes are single use

The hashes marked in `authorizationHashUsed` are exactly those consumed by the successful calls of the
run (`Consumed`), each once: a call that reverts leaves no mark behind, whichever check it failed.
-/

namespace RouteGuard.Escrow

/-- The authorization hash a step of a run consumes. -/
def EscrowLabel.consumes : EscrowLabel → Option Bytes32
  | .success _ call => call.authorizationHash
  | _ => none

/-- The authorization hashes consumed by the successful calls of a run, over all tenders. -/
def consumed (ls : List EscrowLabel) : List Bytes32 := ls.filterMap EscrowLabel.consumes

theorem consumed_snoc (ls : List EscrowLabel) (l : EscrowLabel) :
    consumed (ls ++ [l]) = consumed ls ++ l.consumes.toList := by
  unfold consumed
  rw [List.filterMap_append]
  cases h : l.consumes <;> simp [h]

/-- The marks are the consumed hashes, each of them non-zero and consumed once. -/
structure Consumed (ls : List EscrowLabel) (w : World) : Prop where
  marked : ∀ h, w.authorizationHashUsed h = true ↔ h ∈ consumed ls
  nonzero : ∀ h ∈ consumed ls, h ≠ 0
  nodup : (consumed ls).Nodup

theorem Consumed.idle {ls : List EscrowLabel} {l : EscrowLabel} {w w' : World} (hc : Consumed ls w)
    (hl : l.consumes = none) (hw : w'.authorizationHashUsed = w.authorizationHashUsed) :
    Consumed (ls ++ [l]) w' := by
  have hls : consumed (ls ++ [l]) = consumed ls := by simp [consumed_snoc, hl]
  refine ⟨fun h => ?_, ?_, ?_⟩
  · rw [hw, hls]
    exact hc.marked h
  · rw [hls]
    exact hc.nonzero
  · rw [hls]
    exact hc.nodup

theorem Consumed.consume {ls : List EscrowLabel} {l : EscrowLabel} {w w' : World} {h : Bytes32}
    (hc : Consumed ls w) (hl : l.consumes = some h) (hzero : h ≠ 0)
    (hfresh : w.authorizationHashUsed h = false)
    (hw : w'.authorizationHashUsed = Function.update w.authorizationHashUsed h true) :
    Consumed (ls ++ [l]) w' := by
  have hls : consumed (ls ++ [l]) = consumed ls ++ [h] := by simp [consumed_snoc, hl]
  have hnew : h ∉ consumed ls := by
    rw [← hc.marked, hfresh]
    exact Bool.false_ne_true
  refine ⟨fun h' => ?_, ?_, ?_⟩
  · rw [hw, hls, List.mem_append, List.mem_singleton]
    by_cases hh : h' = h
    · simp [hh]
    · rw [Function.update_of_ne hh, hc.marked h']
      simp [hh]
  · rw [hls]
    intro h' hm
    rcases List.mem_append.mp hm with hm | hm
    · exact hc.nonzero h' hm
    · rw [List.mem_singleton.mp hm]
      exact hzero
  · rw [hls]
    exact hc.nodup.append (List.nodup_singleton h) (by simpa using hnew)

theorem Consumed.step {d : Deployment} {ls : List EscrowLabel} {w w' : World} {l : EscrowLabel}
    (hc : Consumed ls w) (h : EscrowStep d w l w') : Consumed (ls ++ [l]) w' := by
  cases h with
  | @success _ B caller call hself hex =>
    obtain ⟨_, _, _, hcom⟩ := exec_ok hself hex
    have hused := hcom.used
    cases hh : call.authorizationHash with
    | none =>
      rw [hh] at hused
      exact hc.idle hh hused
    | some x =>
      rw [hh] at hused
      obtain ⟨hzero, hfresh⟩ := hcom.fresh x hh
      exact hc.consume hh hzero hfresh hused
  | reverted B _ hex =>
    rw [submit_of_error hex]
    exact hc.idle rfl rfl
  | environment => exact hc.idle rfl rfl

theorem consumed_of_run {d : Deployment} {ls : List EscrowLabel} {w : World}
    (h : (escrowSystem d).Run ls w) : Consumed ls w := by
  refine System.Run.induction (S := escrowSystem d) (I := Consumed) ?_ ?_ h
  · rintro w ⟨-, hused, -⟩
    refine ⟨fun h => ?_, by simp [consumed], List.nodup_nil⟩
    simp [hused, consumed]
  · intro _ _ _ _ _ hc hstep
    exact hc.step hstep

/-- **Single use.** In every run the consumed hashes are non-zero, pairwise distinct and marked, nothing
else is marked, a mark stays, and a call that reverts marks nothing. -/
theorem authorization_single_use (d : Deployment) {ls : List EscrowLabel} {w : World}
    (h : (escrowSystem d).Run ls w) :
    (∀ x ∈ consumed ls, x ≠ 0) ∧ (consumed ls).Nodup ∧
    (∀ x, w.authorizationHashUsed x = true ↔ x ∈ consumed ls) ∧
    (∀ ms w', (escrowSystem d).Steps w ms w' →
      ∀ x, w.authorizationHashUsed x = true → w'.authorizationHashUsed x = true) ∧
    (∀ (B : TokenBoundary d.self) (caller : Address) (call : EscrowCall) (e : EscrowError),
      exec d B caller call w = .error e →
        (submit d B caller call w).authorizationHashUsed = w.authorizationHashUsed) := by
  have hc := consumed_of_run h
  refine ⟨hc.nonzero, hc.nodup, hc.marked, fun ms w' hs x hx => ?_, fun B caller call e hex => ?_⟩
  · have hc' := consumed_of_run (h.append hs)
    rw [hc'.marked, consumed, List.filterMap_append]
    exact List.mem_append_left _ ((hc.marked x).mp hx)
  · rw [submit_of_error hex]

theorem authorization_single_use_sample :
    ∃ w, (escrowSystem Sample.deployment).Run (Sample.split.map fun c => .success c.1 c.2) w ∧
      (w.authorizationHashUsed 14 = true) ∧ (w.authorizationHashUsed 15 = false) ∧
      (consumed (Sample.split.map fun c => .success c.1 c.2)).Nodup := by
  obtain ⟨w, hrun, hmarked, hreentrant⟩ := run_of_runCalls Sample.boundary Sample.split Sample.operator
    Sample.balances (fun w => w.authorizationHashUsed 14 = true ∧ w.authorizationHashUsed 15 = false)
    (by decide) (by decide)
  exact ⟨w, hrun, hmarked, hreentrant, (authorization_single_use Sample.deployment hrun).2.1⟩

end RouteGuard.Escrow
