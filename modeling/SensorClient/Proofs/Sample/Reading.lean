import SensorClient.Sample.Decoder

/-!
# What reading leaves alone

Whatever is read from a connection, and whatever the daemon sends meanwhile, a reader holds the
same connection afterwards and nothing about it has changed but the bytes that are there. A read that
gets bytes gets as many as it asked for.

## Main definitions

* `Link.bare`, `Reader.bare`: a connection and a reader but for the bytes that are there
* `Reader.Sound`: there is a connection, and its descriptor is valid

## Main results

* `Reader.bare_readBytes`, `Pass.bare_run`, `Decoder.bare_drain`: reads, passes and drains keep
  the rest of the reader
* `Reader.length_readBytes`, `Reader.lt_readLimit_of_readBytes`: a read gives as many bytes as it
  was asked for, and some memory can hold them
* `Decoder.drain_induction`: what every pass keeps, a drain keeps
* `Decoder.one_le_drain`: a drain makes at least one pass
-/

namespace SensorClient

/-- A connection but for the bytes that are there. -/
def Link.bare (link : Link) : Link := { link with inbound := [] }

/-- A reader but for the bytes that are there, and for whether its reads came back. -/
def Reader.bare (r : Reader) : Reader := { r with link := r.link.map Link.bare, halted := none }

@[simp] theorem Link.bare_feed (link : Link) (bytes : Bytes) :
    (link.feed bytes).2.bare = link.bare := by
  unfold Link.feed
  repeat' split
  all_goals rfl

@[simp] theorem Link.bare_readExact (link : Link) (wanted : Nat) :
    (link.readExact wanted).2.bare = link.bare := by
  unfold Link.readExact
  dsimp only
  split <;> rfl

namespace Reader

@[simp] theorem subscribed_bare (r : Reader) : r.bare.subscribed = r.subscribed := rfl

@[simp] theorem isConnected_bare (r : Reader) : r.bare.isConnected = r.isConnected := by
  simp [bare, isConnected]

@[simp] theorem isConnected_onLink (r : Reader) (act : Link → Link) :
    (r.onLink act).isConnected = r.isConnected := by
  simp [onLink, isConnected]

@[simp] theorem bare_readBytes (r : Reader) (wanted : Nat) :
    (r.readBytes wanted).2.bare = r.bare := by
  unfold readBytes
  split
  · rfl
  · next link held =>
    split
    · rfl
    · have kept := link.bare_readExact wanted
      split <;> next found => simp_all [bare]

@[simp] theorem bare_read (r : Reader) (buffer : Bytes) :
    (r.read buffer).2.2.bare = r.bare := by
  have kept := r.bare_readBytes buffer.length
  unfold read
  split <;> simp_all

@[simp] theorem bare_await (r : Reader) (limit : Option Duration) :
    (r.await limit).2.bare = r.bare := by
  unfold await
  dsimp only
  split
  · dsimp only
    split <;> rfl
  · rfl

@[simp] theorem bare_feed (r : Reader) (bytes : Bytes) :
    (r.onLink fun link => (link.feed bytes).2).bare = r.bare := by
  simp [bare, onLink, Function.comp_def]

end Reader

/-- A connection is held, and its descriptor is valid. -/
def Reader.Sound (r : Reader) : Prop := ∃ link, r.link = some link ∧ link.broken = false

theorem Reader.sound_bare (r : Reader) : r.bare.Sound ↔ r.Sound := by
  cases held : r.link with
  | none => simp [Sound, bare, held]
  | some link => simp [Sound, bare, held, Link.bare]

/-! ## The size of what is read -/

theorem length_readFull {wanted : Nat} {deliveries : List Delivery} {bytes : Bytes}
    (read : (readFull wanted deliveries).1 = .ok bytes) : bytes.length = wanted := by
  -- What one delivery falls short of, the later ones make up for.
  fun_induction readFull wanted deliveries generalizing bytes with
  | case1 =>
    cases read
    rfl
  | case3 wanted b rest later few result left found ih =>
    rw [found] at ih
    cases result with
    | error fault => cases read
    | ok tail =>
      cases read
      have missing := ih rfl
      simp only [List.length_append, List.length_cons, missing]
      omega
  | case4 wanted b rest later more =>
    cases read
    rw [List.length_cons, List.length_take]
    omega
  | case5 wanted later ih => exact ih read
  | case2 | case6 | case7 => cases read

/-- A read gives as many bytes as it was asked for. -/
theorem Reader.length_readBytes {r : Reader} {wanted : Nat} {bytes : Bytes}
    (read : (r.readBytes wanted).1 = some bytes) : bytes.length = wanted := by
  unfold readBytes at read
  split at read
  · cases read
  · next link held =>
    split at read
    · cases read
    · split at read
      · next found =>
        cases read
        exact length_readFull (congrArg Prod.fst found)
      · cases read
      · cases read

/-- What a read gives some memory can hold. -/
theorem Reader.lt_readLimit_of_readBytes {r : Reader} {wanted : Nat} {bytes : Bytes}
    (read : (r.readBytes wanted).1 = some bytes) : wanted < readLimit := by
  refine Nat.not_le.mp fun oversized => ?_
  cases held : r.link <;> simp [readBytes, held, oversized] at read

/-! ## Passes and drains -/

/-- A pass keeps all of the reader but the bytes, whatever the decoder. -/
@[simp] theorem Pass.bare_run {α : Type} (pass : Pass α) (r : Reader) :
    (pass.run r).2.bare = r.bare := by
  induction pass generalizing r with
  | done a => rfl
  | take wanted next ih => simp [Pass.run, ih]
  | count next ih => simp [Pass.run, ih]
  | arrival bytes next ih => simp [Pass.run, ih]
  | breakdown a => rfl

namespace Decoder

variable {σ : Type}

/-- A pass, and after a pass of use the rest of the drain. -/
theorem drain_eq (decoder : Decoder σ) (state : σ) (r : Reader) :
    decoder.drain state r =
      let first := (decoder.pass state).run r
      if first.1.1 ∧ 0 < first.2.bytesAvailable ∧ first.2.bytesAvailable < r.bytesAvailable then
        let later := decoder.drain first.1.2 first.2
        (later.1 + 1, later.2)
      else (1, first.1.2, first.2) := by
  rw [drain]

/-- What every pass keeps, of what was made of the samples and of the reader, a drain keeps. -/
theorem drain_induction {decoder : Decoder σ} {P : σ → Reader → Prop}
    (pass : ∀ state r, P state r →
      P ((decoder.pass state).run r).1.2 ((decoder.pass state).run r).2)
    {state : σ} {r : Reader} (start : P state r) :
    P (decoder.drain state r).2.1 (decoder.drain state r).2.2 := by
  -- A further pass is only made over fewer bytes, so the number of bytes carries the induction.
  induction bytes : r.bytesAvailable using Nat.strongRecOn generalizing state r with
  | ind _ ih =>
    have first := pass state r start
    rw [drain_eq]
    dsimp only
    split
    · next progress => exact ih _ (bytes ▸ progress.2.2) first rfl
    · exact first

/-- A drain keeps all of the reader but the bytes, whatever the decoder. -/
@[simp] theorem bare_drain (decoder : Decoder σ) (state : σ) (r : Reader) :
    (decoder.drain state r).2.2.bare = r.bare :=
  drain_induction (P := fun _ after => after.bare = r.bare)
    (fun state after kept => ((decoder.pass state).bare_run after).trans kept) rfl

/-- A drain makes at least one pass. -/
theorem one_le_drain (decoder : Decoder σ) (state : σ) (r : Reader) :
    1 ≤ (decoder.drain state r).1 := by
  rw [drain_eq]
  dsimp only
  split
  · exact Nat.le_add_left 1 _
  · exact Nat.le_refl 1

end Decoder

end SensorClient
