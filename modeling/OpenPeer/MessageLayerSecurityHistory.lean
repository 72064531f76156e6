import OpenPeer.MessageLayerSecurityHalves

/-!
# The record of a channel

Whatever happens to a channel, what is on record of it stays there: the bundles it
processed, the offers it made and all that it encrypted and wrote.
-/
namespace OpenPeer

open Bytes Xml

namespace MLSChannel

variable {η Pri Pub : Type} {lib : Libraries Pri Pub} {s s' s'' : MLSChannel η Pri Pub}

/-- The record of what a channel did only grows. -/
structure Grows (s s' : MLSChannel η Pri Pub) : Prop where
  attempts : s.attempts <+: s'.attempts
  encrypted : s.encrypted <+: s'.encrypted
  offers : s.offers <+: s'.offers
  bundles : s.bundles <+: s'.bundles
  written : s.written <+: s'.written

theorem Grows.refl (s : MLSChannel η Pri Pub) : Grows s s :=
  ⟨List.prefix_rfl, List.prefix_rfl, List.prefix_rfl, List.prefix_rfl, List.prefix_rfl⟩

theorem Grows.trans (h : Grows s s') (h' : Grows s' s'') : Grows s s'' :=
  ⟨h.attempts.trans h'.attempts, h.encrypted.trans h'.encrypted, h.offers.trans h'.offers, h.bundles.trans h'.bundles,
    h.written.trans h'.written⟩

theorem Grows.setError (h : Grows s s') (errorCode : UInt16) (reason : String) : Grows s (s'.setError errorCode reason).cancel := by
  unfold MLSChannel.setError
  split
  · exact { h with }
  · exact { h with }

variable {turns : Nat}

theorem stepProcessReceiveKeying_grows (h : Grows s s') {tick : Time} {keying : Option (List UInt8)}
    {r : Bool × Bool × MLSChannel η Pri Pub} (hprocess : stepProcessReceiveKeying lib turns tick s' keying = some r) : Grows s r.2.2 := by
  obtain ⟨q, hq, rfl⟩ := stepProcessReceiveKeying_processed lib s' hprocess
  have hkept : Grows s q.2.2 := by
    cases hq with
    | refused context type fingerprint errorCode reason =>
      have hcleared : Grows s (s'.cleared context type fingerprint) := { h with }
      exact hcleared.setError errorCode reason
    | waits => exact { h with }
    | badState => exact { h with }
    | accepted => exact { h with }
  exact ⟨hkept.attempts.trans (List.prefix_append _ _), hkept.encrypted, hkept.offers, hkept.bundles, hkept.written⟩

theorem grows_rule (s : MLSChannel η Pri Pub) : ReceiveRule lib turns (Grows s) (fun r => Grows s r.2) where
  ends _ h := h
  waits _ h := { h with }
  fails s' streamBuffer _ stream errorCode reason h _ _ := by
    have htaken : Grows s (s'.takeBuffer streamBuffer stream) := { h with }
    exact htaken.setError errorCode reason
  delivers _ _ _ _ _ _ h _ _ := { h with }
  processes s' streamBuffer _ stream tick r h _ _ hprocess := by
    have htaken : Grows s (s'.takeBuffer streamBuffer stream) := { h with }
    have hgrows := stepProcessReceiveKeying_grows htaken hprocess
    exact ⟨fun _ => hgrows, fun _ => hgrows⟩

theorem stepReceive_grows (tick : Nat → Time) {r : Bool × MLSChannel η Pri Pub} (h : stepReceive lib turns tick s = some r) :
    Grows s r.2 := by
  refine (grows_rule s).stepReceive tick (.refl s) ⟨List.prefix_rfl, List.prefix_rfl, List.prefix_rfl, List.prefix_rfl, List.prefix_rfl⟩
    (fun _ => .refl s) ?_ h
  intro tick r _ hprocess
  have hgrows := stepProcessReceiveKeying_grows (.refl s) hprocess
  exact ⟨fun _ => hgrows, fun _ => hgrows⟩

theorem stepSendKeying_grows (input : StepInput) : Grows s (stepSendKeying lib input s).2 := by
  have hrefl := Grows.refl s
  unfold stepSendKeying
  repeat' split
  all_goals first
    | exact hrefl
    | exact hrefl.setError badRequest _
    | exact { hrefl with bundles := List.prefix_append _ _, written := List.prefix_append _ _ }
    | exact { hrefl with offers := List.prefix_append _ _ }
    | exact { hrefl with }

theorem sendLoop_grows (value : Nat → Nat) (k : Nat) (s : MLSChannel η Pri Pub) : Grows s (sendLoop lib value k s).2 := by
  induction k generalizing s with
  | zero => exact .refl s
  | succ k ih =>
    have hrefl := Grows.refl s
    rw [sendLoop]
    split
    · exact hrefl
    · simp only
      split
      · exact { hrefl with }
      · refine Grows.trans ?_ (ih _)
        exact { hrefl with encrypted := List.prefix_append _ _, written := List.prefix_append _ _ }

theorem stepAfterReceive_grows (input : StepInput) : Grows s (stepAfterReceive lib input s) := by
  have hkeyed : Grows s (stepSendKeying lib input s).2 := stepSendKeying_grows input
  have hsent : Grows s (stepSend lib input.value (stepSendKeying lib input s).2).2 := by
    unfold stepSend
    split
    · exact hkeyed
    · exact hkeyed.trans (sendLoop_grows input.value _ _)
  unfold stepAfterReceive
  simp only
  repeat' split
  · exact hkeyed
  · exact hsent
  · exact { hsent with }
  · exact hsent

theorem step_grows (input : StepInput) (h : s.step lib turns input = some s') : Grows s s' := by
  unfold step at h
  split at h
  · cases h
    have hrefl := Grows.refl s
    exact { hrefl with }
  · obtain ⟨r, hreceive, rfl⟩ := Option.map_eq_some_iff.mp h
    have hreceived := stepReceive_grows input.tick hreceive
    split
    · exact hreceived.trans (stepAfterReceive_grows input)
    · exact hreceived

variable [DecidableEq Pri] [DecidableEq Pub]

theorem handle_grows {e : MLSEvent η Pri Pub} (h : s.handle lib turns e = some s') : Grows s s' := by
  have hrefl := Grows.refl s
  cases handle_handled lib s h with
  | configured _ hset =>
    cases hset with
    | same => exact hrefl
    | set => exact { hrefl with }
  | notified =>
    unfold notifySendKeyingMaterialSigned
    split
    · exact hrefl
    · exact { hrefl with }
  | stepped _ input hstep => exact step_grows input hstep
  | receiveReady input hstep =>
    have hgrows := step_grows input hstep
    exact { hgrows with }
  | sendReady input hstep =>
    have hgrows := step_grows input hstep
    exact { hgrows with }
  | signed | cancelled | receiveEncoded | receiveDecoded | sendDecoded | sendEncoded =>
    exact { hrefl with }

end MLSChannel

end OpenPeer
