import PacketLink.Framing.Reassembler
import PacketLink.Proofs.Framing.Streams

namespace PacketLink

/-! What a reassembler holds, said by the packets of the unfinished stream.

`Holds` ties a state to those packets. One packet either extends them, or completes a stream that
`Carries` a message, or is refused; so decoding finds exactly the streams at the head of a list of
packets. -/

theorem Numbered.start {total : Nat} {packets further : List Packet}
    (numbered : Numbered total (packets ++ further)) : Numbered total packets := by
  intro i packet found
  have within := (List.getElem?_eq_some_iff.mp found).1
  exact numbered i packet (by rw [List.getElem?_append_left within, found])

theorem Packet.isLast_iff (packet : Packet) :
    packet.isLast = true ↔ packet.index.val + 1 = packet.total := by
  simp [Packet.isLast, Packet.total, Fin.ext_iff]

namespace Reassembler

section Pushes

variable {state : Reassembler} {packet : Packet} {header : SubHeader} {data : Bytes}

theorem push_of_refusal {reason : FramingError} (refused : state.accept packet = .error reason) :
    state.push packet = (.error reason, new) := by
  rw [push, refused, reset]

theorem push_of_more (accepted : state.accept packet = .ok (header, data))
    (more : packet.isLast = false) :
    state.push packet =
      (.ok none, ⟨.accumulating header packet.total (packet.index.val + 1), data,
        state.carried + packet.payload.length⟩) := by
  rw [push, accepted]
  exact if_neg (Bool.eq_false_iff.mp more)

theorem push_of_whole (accepted : state.accept packet = .ok (header, data))
    (last : packet.isLast = true)
    (whole : data.length = header.length.toNat ∧
      data.length + Limits.subHeader = state.carried + packet.payload.length) :
    state.push packet = (.ok (some ⟨header.command, data⟩), new) := by
  rw [push, accepted]
  exact (if_pos last).trans (if_pos whole)

theorem push_of_mismatch (accepted : state.accept packet = .ok (header, data))
    (last : packet.isLast = true)
    (differ : ¬ (data.length = header.length.toNat ∧
      data.length + Limits.subHeader = state.carried + packet.payload.length)) :
    state.push packet =
      (.error (.lengthMismatch header.length.toNat data.length (state.carried + packet.payload.length)),
        new) := by
  rw [push, accepted]
  exact (if_pos last).trans (if_neg differ)

/-- The ways in which a push ends. -/
inductive Pushed (state : Reassembler) (packet : Packet) :
    Except FramingError (Option Message) × Reassembler → Prop
  | refused {reason : FramingError} (refused : state.accept packet = .error reason) :
      Pushed state packet (.error reason, new)
  | more {header : SubHeader} {data : Bytes} (accepted : state.accept packet = .ok (header, data))
      (more : packet.isLast = false) :
      Pushed state packet
        (.ok none, ⟨.accumulating header packet.total (packet.index.val + 1), data,
          state.carried + packet.payload.length⟩)
  | whole {header : SubHeader} {data : Bytes} (accepted : state.accept packet = .ok (header, data))
      (last : packet.isLast = true)
      (whole : data.length = header.length.toNat ∧
        data.length + Limits.subHeader = state.carried + packet.payload.length) :
      Pushed state packet (.ok (some ⟨header.command, data⟩), new)
  | mismatch {header : SubHeader} {data : Bytes} (accepted : state.accept packet = .ok (header, data))
      (last : packet.isLast = true)
      (differ : ¬ (data.length = header.length.toNat ∧
        data.length + Limits.subHeader = state.carried + packet.payload.length)) :
      Pushed state packet
        (.error (.lengthMismatch header.length.toNat data.length
          (state.carried + packet.payload.length)), new)

theorem pushed (state : Reassembler) (packet : Packet) : Pushed state packet (state.push packet) := by
  cases accepted : state.accept packet with
  | error reason => exact push_of_refusal accepted ▸ .refused accepted
  | ok found =>
      obtain ⟨header, data⟩ := found
      cases last : packet.isLast with
      | false => exact push_of_more accepted last ▸ .more accepted last
      | true =>
          by_cases whole : data.length = header.length.toNat ∧
              data.length + Limits.subHeader = state.carried + packet.payload.length
          · exact push_of_whole accepted last whole ▸ .whole accepted last whole
          · exact push_of_mismatch accepted last whole ▸ .mismatch accepted last whole

/-- A message or an error leaves nothing pending. -/
theorem push_eq_new (answered : (state.push packet).1 ≠ .ok none) : (state.push packet).2 = new := by
  have ended := state.pushed packet
  generalize state.push packet = result at answered ended ⊢
  cases ended with
  | more accepted more => contradiction
  | refused | whole | mismatch => rfl

end Pushes

/-- The packets are the start of a stream of `total` packets, its sub-header included. -/
structure Opens (total : Nat) (packets : List Packet) : Prop where
  numbered : Numbered total packets
  opened : ∀ first : Packet, packets[0]? = some first → 4 ≤ first.payload.length

/-- The state after `pending`, the packets so far of a stream that is not complete. -/
inductive Holds : Reassembler → List Packet → Prop
  | idle : Holds new []
  | midway {pending : List Packet} {total : Nat} {header : SubHeader} {data : Bytes}
      (opens : Opens total pending) (begun : 1 ≤ pending.length) (unfinished : pending.length < total)
      (spelled : payloads pending = header.bytes ++ data) :
      Holds ⟨.accumulating header total pending.length, data, (payloads pending).length⟩ pending

variable {state next : Reassembler} {pending : List Packet} {packet : Packet} {message : Message}

theorem Opens.start {total : Nat} {packets further : List Packet}
    (opens : Opens total (packets ++ further)) : Opens total packets := by
  refine ⟨opens.numbered.start, fun first found => opens.opened first ?_⟩
  have within := (List.getElem?_eq_some_iff.mp found).1
  rw [List.getElem?_append_left within, found]

theorem opens_of_carries {packets : List Packet} (carries : Carries packets message) :
    Opens packets.length packets :=
  ⟨carries.numbered, carries.opened⟩

theorem opens_concat {total : Nat} (begun : 1 ≤ pending.length) :
    Opens total (pending ++ [packet]) ↔
      Opens total pending ∧ packet.index.val = pending.length ∧ packet.total = total := by
  constructor
  · intro opens
    exact ⟨opens.start, (numbered_concat.mp opens.numbered).2⟩
  · rintro ⟨opens, index, named⟩
    refine ⟨numbered_concat.mpr ⟨opens.numbered, index, named⟩, fun first found => ?_⟩
    rw [List.getElem?_append_left (by omega)] at found
    exact opens.opened first found

theorem opens_singleton :
    Opens packet.total [packet] ↔ packet.index.val = 0 ∧ 4 ≤ packet.payload.length := by
  constructor
  · intro opens
    exact ⟨(opens.numbered 0 packet rfl).1, opens.opened packet rfl⟩
  · rintro ⟨index, enough⟩
    constructor
    · change Numbered packet.total ([] ++ [packet])
      exact numbered_concat.mpr ⟨fun i found at_i => by simp at at_i, index, rfl⟩
    · intro first found
      obtain rfl : packet = first := by simpa using found
      exact enough

/-- A stream names one length, in its first packet already. -/
theorem Opens.total_unique {total other : Nat} (opens : Opens total pending)
    (again : Opens other pending) (begun : 1 ≤ pending.length) : other = total := by
  have found : pending[0]? = some pending[0] := List.getElem?_eq_getElem begun
  exact (again.numbered 0 _ found).2.symm.trans (opens.numbered 0 _ found).2

theorem Opens.total_le {total : Nat} (opens : Opens total pending) (begun : 1 ≤ pending.length) :
    total ≤ 16 := by
  have named := (opens.numbered 0 _ (List.getElem?_eq_getElem begun)).2
  have bound := pending[0].last.isLt
  rw [← named, Packet.total]
  omega

theorem header_append_inj {header other : SubHeader} {data rest : Bytes} :
    header.bytes ++ data = other.bytes ++ rest ↔ header = other ∧ data = rest := by
  constructor
  · intro same
    obtain ⟨headers, datas⟩ := List.append_inj same (by simp)
    exact ⟨SubHeader.bytes_injective headers, datas⟩
  · rintro ⟨rfl, rfl⟩
    rfl

theorem Holds.carried (holds : state.Holds pending) :
    state.carried = (payloads pending).length := by
  cases holds <;> rfl

theorem Holds.eq_new (holds : state.Holds pending) (idle : state.isIdle = true) : state = new := by
  cases holds with
  | idle => rfl
  | midway opens begun unfinished spelled => cases idle

/-- A packet is accepted if it continues the pending ones, and what is collected then spells what
the packets spell. -/
theorem accept_eq_ok_iff {header : SubHeader} {data : Bytes} (holds : state.Holds pending) :
    state.accept packet = .ok (header, data) ↔
      Opens packet.total (pending ++ [packet]) ∧
        payloads (pending ++ [packet]) = header.bytes ++ data := by
  cases holds with
  | idle =>
      simp only [accept, new, List.nil_append, opens_singleton, payloads_cons, payloads_nil,
        List.append_nil]
      by_cases first : packet.index.val = 0
      · simp only [first, ne_eq, not_true_eq_false, ↓reduceIte, true_and]
        by_cases enough : 4 ≤ packet.payload.length
        · obtain ⟨opening, rest, split⟩ := SubHeader.exists_bytes_append enough
          have dropped : (opening.bytes ++ rest).drop Limits.subHeader = rest := rfl
          simp only [split, SubHeader.ofPayload_bytes_append, header_append_inj]
          simp [bind, Except.bind, pure, Except.pure, dropped]
        · rw [SubHeader.ofPayload_short (by omega)]
          simp [bind, Except.bind, enough]
      · simp [first]
  | @midway _ total opening collected opens begun unfinished spelled =>
      simp only [accept, payloads_append, payloads_cons, payloads_nil, List.append_nil, spelled,
        List.append_assoc, header_append_inj, opens_concat begun, and_true]
      by_cases named : packet.total = total
      · by_cases index : packet.index.val = pending.length
        · simp [named, index, opens]
        · simp [named, index]
      · have other : ¬ Opens packet.total pending := fun again =>
          named (opens.total_unique again begun)
        simp [named, other]

/-- A packet that continues the pending ones belongs to a stream that is longer than they are. -/
theorem Holds.unfinished (holds : state.Holds pending)
    (continues : Opens packet.total (pending ++ [packet])) : pending.length < packet.total := by
  cases holds with
  | idle => exact Nat.succ_pos _
  | midway opens begun unfinished spelled =>
      rwa [opens.total_unique continues.start begun]

/-- Pending packets are not complete. -/
theorem Holds.not_carries (holds : state.Holds pending) : ¬ Carries pending message := by
  intro carries
  cases holds with
  | idle => exact absurd carries.nonempty (by simp)
  | midway opens begun unfinished spelled =>
      have total := opens.total_unique (opens_of_carries carries) begun
      omega

/-- The packet that completes a stream yields its message. -/
theorem push_of_carries (holds : state.Holds pending)
    (carries : Carries (pending ++ [packet]) message) :
    state.push packet = (.ok (some message), new) := by
  have total : packet.total = pending.length + 1 := by
    simpa using (numbered_concat.mp carries.numbered).2.2
  have opens : Opens packet.total (pending ++ [packet]) := by
    rw [total]
    simpa using opens_of_carries carries
  have accepted := (accept_eq_ok_iff holds).mpr ⟨opens, carries.payloads_eq⟩
  have last : packet.isLast = true := by
    rw [packet.isLast_iff, (numbered_concat.mp carries.numbered).2.1, total]
  have fits := carries.fits
  have declared : (UInt16.ofNat message.length).toNat = message.payload.length := by
    rw [UInt16.toNat_ofNat']
    exact Nat.mod_eq_of_lt (by simp only [Message.length] at fits ⊢; omega)
  have carried : state.carried + packet.payload.length = message.payload.length + 4 := by
    have whole := congrArg List.length carries.payloads_eq
    simp at whole
    rw [holds.carried]
    simp only [Message.length] at whole
    omega
  exact push_of_whole accepted last ⟨declared.symm, carried.symm⟩

theorem Holds.extend {header : SubHeader} {data : Bytes} (holds : state.Holds pending)
    (accepted : state.accept packet = .ok (header, data)) (more : packet.isLast = false) :
    Holds ⟨.accumulating header packet.total (packet.index.val + 1), data,
      state.carried + packet.payload.length⟩ (pending ++ [packet]) := by
  obtain ⟨opens, spelled⟩ := (accept_eq_ok_iff holds).mp accepted
  have index := (numbered_concat.mp opens.numbered).2.1
  have next : packet.index.val + 1 = (pending ++ [packet]).length := by
    rw [index, List.length_append, List.length_singleton]
  have unfinished : (pending ++ [packet]).length < packet.total := by
    have within := holds.unfinished opens
    have notLast : packet.index.val + 1 ≠ packet.total := by
      rw [ne_eq, ← packet.isLast_iff, more]
      exact Bool.false_ne_true
    omega
  have carried : state.carried + packet.payload.length = (payloads (pending ++ [packet])).length := by
    simp [holds.carried]
  rw [next, carried]
  exact .midway opens (by simp) unfinished spelled

/-- A packet that continues its stream without completing it yields nothing yet. -/
theorem push_of_opens (holds : state.Holds pending)
    (opens : Opens packet.total (pending ++ [packet])) (more : pending.length + 1 < packet.total) :
    ∃ next, state.push packet = (.ok none, next) ∧ next.Holds (pending ++ [packet]) := by
  have index := (numbered_concat.mp opens.numbered).2.1
  have enough : 4 ≤ (payloads (pending ++ [packet])).length := by
    cases pending with
    | nil => simpa using opens.opened packet rfl
    | cons first rest =>
        have := opens.opened first rfl
        simp only [List.cons_append, payloads_cons, List.length_append]
        omega
  obtain ⟨header, data, spelled⟩ := SubHeader.exists_bytes_append enough
  have accepted := (accept_eq_ok_iff holds).mpr ⟨opens, spelled⟩
  have notLast : packet.isLast = false := by
    rw [Bool.eq_false_iff, ne_eq, packet.isLast_iff]
    omega
  exact ⟨_, push_of_more accepted notLast, holds.extend accepted notLast⟩

theorem push_eq_none (holds : state.Holds pending) (pushed : state.push packet = (.ok none, next)) :
    next.Holds (pending ++ [packet]) := by
  have ended := state.pushed packet
  rw [pushed] at ended
  cases ended with
  | more accepted more => exact holds.extend accepted more

theorem push_eq_some (holds : state.Holds pending)
    (pushed : state.push packet = (.ok (some message), next)) :
    Carries (pending ++ [packet]) message ∧ next = new := by
  have ended := state.pushed packet
  rw [pushed] at ended
  cases ended with
  | whole accepted last whole =>
      obtain ⟨opens, spelled⟩ := (accept_eq_ok_iff holds).mp accepted
      have index := (numbered_concat.mp opens.numbered).2.1
      have total : packet.total = (pending ++ [packet]).length := by
        have := packet.isLast_iff.mp last
        simp only [List.length_append, List.length_singleton]
        omega
      refine ⟨⟨by simp, ?_, total ▸ opens.numbered, opens.opened, ?_⟩, rfl⟩
      · have bound := packet.last.isLt
        rw [← total, Packet.total]
        omega
      · simp only [spelled, Message.length, whole.1, UInt16.ofNat_toNat]
        rfl

/-- A complete stream is taken packet by packet: the first one of what is left completes it if it is
the only one, and otherwise extends the pending packets. -/
theorem push_of_carries_cons {rest : List Packet} (holds : state.Holds pending) (left : rest ≠ [])
    (carries : Carries (pending ++ packet :: rest) message) :
    ∃ next, state.push packet = (.ok none, next) ∧ next.Holds (pending ++ [packet]) := by
  have whole := opens_of_carries carries
  rw [List.append_cons] at whole
  have total := (numbered_concat.mp whole.start.numbered).2.2
  have longer : 0 < rest.length := List.length_pos_iff.mpr left
  refine push_of_opens holds (total ▸ whole.start) ?_
  simp only [List.append_assoc, List.length_append, List.length_cons] at total
  omega

/-- Decoding yields the message of the stream that the pending packets and the next ones form, if
they form one. -/
theorem decodeFrom_eq_ok_iff (holds : state.Holds pending) (packets : List Packet)
    (received expected : Nat) :
    decodeFrom state received expected packets = .ok message ↔
      ∃ n, n ≤ packets.length ∧ Carries (pending ++ packets.take n) message := by
  induction packets generalizing state pending received expected with
  | nil =>
      have incomplete : ¬ Carries pending message := holds.not_carries
      simp [decodeFrom, incomplete]
  | cons packet rest ih =>
      constructor
      · intro decoded
        simp only [decodeFrom] at decoded
        split at decoded
        · contradiction
        · rename_i found next pushed
          obtain rfl : found = message := by simpa using decoded
          exact ⟨1, by simp, by simpa using (push_eq_some holds pushed).1⟩
        · rename_i next pushed
          obtain ⟨n, within, carries⟩ := (ih (push_eq_none holds pushed) _ _).mp decoded
          exact ⟨n + 1, by simpa using within, by simpa using carries⟩
      · rintro ⟨n, within, carries⟩
        cases n with
        | zero => exact absurd (by simpa using carries) holds.not_carries
        | succ n =>
            rw [List.take_succ_cons] at carries
            by_cases left : rest.take n = []
            · rw [left] at carries
              simp [decodeFrom, push_of_carries holds carries]
            · obtain ⟨next, pushed, holding⟩ := push_of_carries_cons holds left carries
              simp only [decodeFrom, pushed]
              exact (ih holding _ _).mpr ⟨n, by simpa using within, by simpa using carries⟩

end Reassembler

end PacketLink
