import FleetControl.Device.Body
import FleetControl.Proofs.Telemetry.Chunks

namespace FleetControl.Device.Body

open Telemetry (Decoder)

variable {b b' b'' : Body} {items more : List Item} {d d' : Decoder}
  {source rest : List (Except String (List UInt8))}

theorem Gives.append (h : b.Gives items b') (h' : b'.Gives more b'') :
    b.Gives (items ++ more) b'' := by
  induction h with
  | nil => exact h'
  | cons hn _ ih => exact .cons hn (ih h')

theorem Gives.of_next_eq (h : b.Gives items b') (hne : items ≠ []) (hn : b''.next = b.next) :
    b''.Gives items b' := by
  cases h with
  | nil => exact absurd rfl hne
  | cons hs ht => exact .cons (hn.trans hs) ht

theorem yields_unique (h : b.Yields items) (h' : b.Yields more) : items = more := by
  obtain ⟨e, h, hend⟩ := h
  obtain ⟨e', h', hend'⟩ := h'
  induction h generalizing more with
  | nil b =>
    cases h' with
    | nil => rfl
    | cons hn => simp [hn] at hend
  | cons hn _ ih =>
    cases h' with
    | nil => simp [hn] at hend'
    | cons hn' ht =>
      obtain ⟨hitem, rfl⟩ := Prod.mk.inj (hn.symm.trans hn')
      obtain rfl := Option.some.inj hitem
      rw [ih hend ht]

def itemsOf (results : List (Except Telemetry.EventError Telemetry.Payload)) : List Item :=
  results.map fun r ↦ r.mapError .stream

def Quiet (d : Decoder) : Prop := d.nextPayload = (.ok none, d)

theorem quiet_drainPayloads (d : Decoder) : Quiet d.drainPayloads.2 := by
  have hc : d.drain.2.next = (.ok none, d.drain.2) := Decoder.drainWith_complete (Nat.lt_succ_self _)
  rw [Quiet, Decoder.drainPayloads_eq, Decoder.nextPayload, hc]

theorem poll_of_none (h : d.nextPayload = (.ok none, d')) (hd : Quiet d')
    (source : List (Except String (List UInt8))) : poll d source = poll d' source := by
  unfold poll
  rw [h, hd]

theorem gives_drained {fuel : ℕ} {results : List (Except Telemetry.EventError Telemetry.Payload)}
    (hd : Decoder.drainWith Decoder.nextPayload fuel d = (results, d')) (hq : Quiet d')
    (source : List (Except String (List UInt8))) :
    ∃ e, Gives ⟨source, d, false⟩ (itemsOf results) ⟨source, e, false⟩ ∧
      poll e source = poll d' source := by
  induction fuel generalizing d results with
  | zero =>
    obtain ⟨rfl, rfl⟩ := Prod.mk.inj hd
    exact ⟨d, .nil _, rfl⟩
  | succ fuel ih =>
    rcases hn : d.nextPayload with ⟨e | _ | p, d₁⟩
    · simp only [Decoder.drainWith, hn] at hd
      obtain ⟨rfl, hrest⟩ := Prod.mk.inj hd
      obtain ⟨e', hgives, hpoll⟩ := ih (Prod.ext rfl hrest)
      exact ⟨e', .cons (by simp [next, poll, hn]; rfl) hgives, hpoll⟩
    · simp only [Decoder.drainWith, hn] at hd
      obtain ⟨rfl, rfl⟩ := Prod.mk.inj hd
      exact ⟨d, .nil _, poll_of_none hn hq source⟩
    · simp only [Decoder.drainWith, hn] at hd
      obtain ⟨rfl, hrest⟩ := Prod.mk.inj hd
      obtain ⟨e', hgives, hpoll⟩ := ih (Prod.ext rfl hrest)
      exact ⟨e', .cons (by simp [next, poll, hn]; rfl) hgives, hpoll⟩

/-- A body that has nothing to give before it reads on from a source with a decoder. -/
structure WaitsFor (b : Body) (d : Decoder) (source : List (Except String (List UInt8))) : Prop where
  next_eq : b.next = next ⟨source, d, false⟩
  quiet : Quiet d
  unread : source <:+ b.source

theorem waitsFor_new (source : List (Except String (List UInt8))) :
    WaitsFor (new source) .empty source :=
  ⟨rfl, rfl, List.suffix_refl source⟩

theorem WaitsFor.chunk {chunk : List UInt8} (h : WaitsFor b d (.ok chunk :: rest)) :
    ∃ b', b.Gives (itemsOf (d.extend chunk).drainPayloads.1) b' ∧
      WaitsFor b' (d.extend chunk).drainPayloads.2 rest := by
  obtain ⟨hnext, hquiet, hunread⟩ := h
  have hq := quiet_drainPayloads (d.extend chunk)
  have hdrain : Decoder.drainWith Decoder.nextPayload (d.extend chunk).resultBound (d.extend chunk) =
      ((d.extend chunk).drainPayloads.1, (d.extend chunk).drainPayloads.2) := rfl
  obtain ⟨e, hgives, hpoll⟩ := gives_drained hdrain hq rest
  have hread : b.next = next ⟨rest, d.extend chunk, false⟩ := by
    rw [hnext]
    show poll d (.ok chunk :: rest) = poll (d.extend chunk) rest
    rw [poll, hquiet]
  have hwait : next ⟨rest, e, false⟩ = next ⟨rest, (d.extend chunk).drainPayloads.2, false⟩ := hpoll
  by_cases hnone : itemsOf (d.extend chunk).drainPayloads.1 = []
  · -- Nothing comes of the chunk, so it has not been read yet.
    rw [hnone] at hgives ⊢
    cases hgives
    exact ⟨b, .nil b, hread.trans hwait, hq, (List.suffix_cons _ _).trans hunread⟩
  · exact ⟨_, hgives.of_next_eq hnone hread, hwait, hq, List.suffix_refl rest⟩

theorem WaitsFor.chunks {chunks : List (List UInt8)} (h : WaitsFor b d (chunks.map .ok ++ rest)) :
    ∃ b' d', b.Gives (itemsOf (Decoder.decodeChunks Decoder.drainPayloads d chunks).flatten) b' ∧
      WaitsFor b' d' rest := by
  induction chunks generalizing b d with
  | nil => exact ⟨b, d, .nil b, h⟩
  | cons chunk chunks ih =>
    obtain ⟨b₁, hfirst, hwait⟩ := h.chunk
    obtain ⟨b', d', hothers, hwait'⟩ := ih hwait
    refine ⟨b', d', ?_, hwait'⟩
    have hall := hfirst.append hothers
    rwa [itemsOf, itemsOf, ← List.map_append] at hall

theorem streamItems_none (chunks : List (List UInt8)) :
    (streamItems chunks none).flatten =
      itemsOf (Decoder.decodeChunks Decoder.drainPayloads .empty chunks).flatten := by
  simp [streamItems, itemsOf, List.map_flatten]

theorem streamItems_some (chunks : List (List UInt8)) (e : String) :
    (streamItems chunks (some e)).flatten =
      (streamItems chunks none).flatten ++ [.error (.transport e)] := by
  simp [streamItems]

/-- A body yields the results of draining a decoder after each chunk, then the error of the connection,
and nothing of what is behind that. -/
theorem yields_iff (chunks : List (List UInt8)) (failure : Option String)
    (more : List (Except String (List UInt8))) (items : List Item) :
    (new (sourceOf chunks failure more)).Yields items ↔
      items = (streamItems chunks failure).flatten := by
  have hyields : (new (sourceOf chunks failure more)).Yields (streamItems chunks failure).flatten := by
    obtain ⟨b, d, hgives, hnext, hquiet, -⟩ := (waitsFor_new (sourceOf chunks failure more)).chunks
    rw [← streamItems_none] at hgives
    cases failure with
    | none =>
      refine ⟨b, hgives, ?_⟩
      rw [hnext]
      simp [next, poll, show d.nextPayload = (.ok none, d) from hquiet]
    | some e =>
      rw [streamItems_some]
      have hlast : b.next = (some (.error (.transport e)), ⟨more, d, true⟩) := by
        rw [hnext]
        simp [next, poll, show d.nextPayload = (.ok none, d) from hquiet]
      exact ⟨_, hgives.append (.cons hlast (.nil _)), rfl⟩
  exact ⟨fun h ↦ yields_unique h hyields, fun h ↦ h ▸ hyields⟩

theorem gives_before (before after : List (List UInt8)) (failure : Option String)
    (more : List (Except String (List UInt8))) :
    ∃ b, (new (sourceOf (before ++ after) failure more)).Gives (streamItems before none).flatten b ∧
      sourceOf after failure more <:+ b.source := by
  have hsource : sourceOf (before ++ after) failure more =
      before.map .ok ++ sourceOf after failure more := by
    simp [sourceOf]
  obtain ⟨b, d, hgives, hwait⟩ := (hsource ▸ waitsFor_new _ :
    WaitsFor (new (sourceOf (before ++ after) failure more)) .empty
      (before.map .ok ++ sourceOf after failure more)).chunks
  exact ⟨b, streamItems_none before ▸ hgives, hwait.unread⟩

end FleetControl.Device.Body
