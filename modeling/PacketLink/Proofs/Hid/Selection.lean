import Mathlib.Data.List.Pairwise
import PacketLink.Hid.Simulated

namespace PacketLink.Hid

/-! The choice among the interfaces of a product.

Number 0 comes first, and among the others, as among several with number 0, the enumeration decides. -/

section Sorting

variable {α : Type} {first : α → Bool} {list : List α}

/-- What is sorted by a Boolean key has the elements with the key ahead of all others. -/
theorem eq_filter_append_filter (sorted : list.Pairwise fun a b => (first a || !first b) = true) :
    list = list.filter first ++ list.filter fun a => !first a := by
  induction sorted with
  | nil => rfl
  | @cons a list ahead sorted ih =>
      cases key : first a with
      | true => rw [List.filter_cons_of_pos key, List.filter_cons_of_neg (by simp [key]),
          List.cons_append, ← ih]
      | false =>
          have others : ∀ b ∈ list, (!first b) = true := by simpa [key] using ahead
          have none : list.filter first = [] :=
            List.filter_eq_nil_iff.mpr fun b member => by simpa using others b member
          rw [List.filter_cons_of_neg (by simp [key]), List.filter_cons_of_pos (by simp [key]), none,
            List.filter_eq_self.mpr others, List.nil_append]

/-- Sorting by a Boolean key takes the elements with the key and then the others, each in the order in
which they were. -/
theorem mergeSort_eq_filter_append_filter (first : α → Bool) (list : List α) :
    list.mergeSort (fun a b => first a || !first b) =
      list.filter first ++ list.filter fun a => !first a := by
  have trans : ∀ a b c : α, (first a || !first b) = true → (first b || !first c) = true →
      (first a || !first c) = true := by
    intro a b c
    cases first a <;> cases first b <;> simp
  have total : ∀ a b : α, ((first a || !first b) || (first b || !first a)) = true := by
    intro a b
    cases first a <;> cases first b <;> rfl
  -- Elements of one key are in order as they are, so that sorting keeps the list that they make up.
  have kept (key : Bool) : (list.mergeSort fun a b => first a || !first b).filter (first · == key) =
      list.filter (first · == key) := by
    have inOrder : (list.filter (first · == key)).Pairwise fun a b => (first a || !first b) = true := by
      refine List.pairwise_of_forall_mem_list fun a aMember b bMember => ?_
      have same : first a = key ∧ first b = key := by
        simpa using And.intro (List.mem_filter.mp aMember).2 (List.mem_filter.mp bMember).2
      rw [same.1, same.2]
      cases key <;> rfl
    have sublist :=
      (List.sublist_mergeSort trans total inOrder List.filter_sublist).filter (first · == key)
    simp only [List.filter_filter, Bool.and_self] at sublist
    have count := (List.mergeSort_perm list fun a b => first a || !first b).countP_eq (first · == key)
    rw [List.countP_eq_length_filter, List.countP_eq_length_filter] at count
    exact (sublist.eq_of_length count.symm).symm
  have ahead := kept true
  have behind := kept false
  simp only [beq_true, beq_false] at ahead behind
  rw [← ahead, ← behind]
  exact eq_filter_append_filter (List.pairwise_mergeSort trans total list)

end Sorting

namespace Interface

/-- Whether it is one of a product. -/
def isOf (vid pid : UInt16) (interface : Interface) : Bool := interface.vid = vid ∧ interface.pid = pid

/-- Whether it has number 0. -/
def isFirst (interface : Interface) : Bool := interface.number = 0

theorem ranksBefore_eq (a b : Interface) : ranksBefore a b = (a.isFirst || !b.isFirst) := by
  simp [ranksBefore, isFirst]

variable (interfaces : List Interface) (vid pid : UInt16)

theorem matching_eq_append :
    matching interfaces vid pid =
      (interfaces.filter fun interface => interface.isOf vid pid && interface.isFirst) ++
        interfaces.filter fun interface => interface.isOf vid pid && !interface.isFirst := by
  have ranks : ranksBefore = fun a b => a.isFirst || !b.isFirst :=
    funext fun a => funext fun b => ranksBefore_eq a b
  have ours : (fun interface : Interface => decide (interface.vid = vid ∧ interface.pid = pid)) =
      isOf vid pid := rfl
  rw [matching, ranks, ours, mergeSort_eq_filter_append_filter, List.filter_filter, List.filter_filter]
  simp only [Bool.and_comm]

theorem count_matching (interface : Interface) :
    (matching interfaces vid pid).count interface =
      if interface.isOf vid pid then interfaces.count interface else 0 := by
  rw [matching, (List.mergeSort_perm _ _).count_eq]
  cases ours : interface.isOf vid pid with
  | true => exact List.count_filter ours
  | false =>
      refine List.count_eq_zero.mpr fun member => ?_
      have selected : interface.isOf vid pid = true := (List.mem_filter.mp member).2
      rw [ours] at selected
      cases selected

/-- The first interface of a product with number 0, or else its first interface. -/
def choice : Option Interface :=
  (interfaces.find? fun interface => interface.isOf vid pid && interface.isFirst).or
    (interfaces.find? (isOf vid pid))

theorem choice_eq_none_iff :
    choice interfaces vid pid = none ↔ ∀ interface ∈ interfaces, interface.isOf vid pid = false := by
  simp only [choice, Option.or_eq_none_iff, List.find?_eq_none, Bool.and_eq_true, Bool.not_eq_true]
  constructor
  · exact fun none => none.2
  · intro none
    refine ⟨fun interface member selected => ?_, none⟩
    rw [none interface member] at selected
    cases selected.1

theorem head?_matching : (matching interfaces vid pid).head? = choice interfaces vid pid := by
  rw [matching_eq_append, List.head?_append, List.head?_filter, choice]
  cases found : interfaces.find? fun interface => interface.isOf vid pid && interface.isFirst with
  | some interface => rfl
  | none =>
      -- Without a number 0, the others are all that there are.
      have others : (interfaces.filter fun interface => interface.isOf vid pid && !interface.isFirst) =
          interfaces.filter (isOf vid pid) := by
        refine List.filter_congr fun interface member => ?_
        have notBoth := List.find?_eq_none.mp found interface member
        cases ours : interface.isOf vid pid with
        | false => rfl
        | true =>
            have later : interface.isFirst = false := by simpa [ours] using notBoth
            rw [later]
            rfl
      rw [Option.none_or, Option.none_or, others, List.head?_filter]

end Interface

theorem Error.toLinkError_ne_deviceNotFound (reason : Error) (device : String) :
    reason.toLinkError ≠ .deviceNotFound device := by
  unfold Error.toLinkError
  dsimp only
  split <;> nofun

section Opening

variable {σ : Type} (system : System σ) (state : σ)

/-- Opening an interface never fails for want of one, and where it succeeds it is this one. -/
theorem System.openInterface_result (interface : Interface) :
    (system.openInterface interface state).result = .ok interface ∨
      ∃ reason, (system.openInterface interface state).result = .error reason ∧
        ∀ device, reason ≠ .deviceNotFound device := by
  unfold System.openInterface
  split
  · exact .inr ⟨_, rfl, nofun⟩
  · dsimp only
    split
    · rename_i reason _
      exact .inr ⟨_, rfl, reason.toLinkError_ne_deviceNotFound⟩
    · exact .inl rfl

variable (vid pid : UInt16)

/-- The failure for want of an interface. -/
def notFound : LinkError := .deviceNotFound s!"{Hex.upperWord vid}:{Hex.upperWord pid}"

theorem System.openFirst_of_choice {interfaces : List Interface} {chosen : Interface}
    (enumerated : system.interfaces state = .ok interfaces)
    (choice : Interface.choice interfaces vid pid = some chosen) :
    (system.openFirst vid pid state).result = (system.openInterface chosen state).result ∧
      (system.openFirst vid pid state).system = (system.openInterface chosen state).system := by
  rw [← Interface.head?_matching] at choice
  obtain ⟨rest, matched⟩ := List.head?_eq_some_iff.mp choice
  rw [System.openFirst, enumerated]
  simp only [matched]
  exact ⟨trivial, trivial⟩

theorem System.openFirst_of_none {interfaces : List Interface}
    (enumerated : system.interfaces state = .ok interfaces)
    (none : Interface.choice interfaces vid pid = none) :
    (system.openFirst vid pid state).result = .error (notFound vid pid) := by
  rw [← Interface.head?_matching] at none
  have empty := List.head?_eq_none_iff.mp none
  rw [System.openFirst, enumerated]
  simp only [empty]
  rfl

theorem System.openFirst_deviceNotFound_iff (device : String) :
    (system.openFirst vid pid state).result = .error (.deviceNotFound device) ↔
      notFound vid pid = .deviceNotFound device ∧ ∃ interfaces,
        system.interfaces state = .ok interfaces ∧
        ∀ interface ∈ interfaces, interface.isOf vid pid = false := by
  cases enumerated : system.interfaces state with
  | error reason =>
      rw [System.openFirst, enumerated]
      exact iff_of_false (fun same => reason.toLinkError_ne_deviceNotFound device (Except.error.inj same))
        nofun
  | ok interfaces =>
      cases choice : Interface.choice interfaces vid pid with
      | none =>
          have nothing := (Interface.choice_eq_none_iff interfaces vid pid).mp choice
          rw [system.openFirst_of_none state vid pid enumerated choice, Except.error.injEq]
          exact (and_iff_left ⟨interfaces, rfl, nothing⟩).symm
      | some chosen =>
          refine iff_of_false (fun failed => ?_) ?_
          · rw [(system.openFirst_of_choice state vid pid enumerated choice).1] at failed
            rcases system.openInterface_result state chosen with opened | ⟨reason, refused, other⟩
            · rw [opened] at failed
              cases failed
            · rw [refused] at failed
              exact other device (Except.error.inj failed)
          · rintro ⟨-, listed, same, nothing⟩
            obtain rfl := Except.ok.inj same
            rw [(Interface.choice_eq_none_iff interfaces vid pid).mpr nothing] at choice
            cases choice

end Opening

/-- The interfaces of a product are those of the enumeration, each as often as it stands there, with
number 0 ahead of the others and otherwise in the order in which they were enumerated. What is opened
is the first of them with number 0, or else the first of them, and only if there is none it is said that
there is none. -/
theorem System.openFirst_selects (vid pid : UInt16) :
    (∀ interfaces : List Interface,
      Interface.matching interfaces vid pid =
        (interfaces.filter fun interface => interface.isOf vid pid && interface.isFirst) ++
          (interfaces.filter fun interface => interface.isOf vid pid && !interface.isFirst) ∧
      ∀ interface, (Interface.matching interfaces vid pid).count interface =
        if interface.isOf vid pid then interfaces.count interface else 0) ∧
    ∀ {σ : Type} (system : System σ) (state : σ),
      (∀ interfaces chosen, system.interfaces state = .ok interfaces →
        ((interfaces.find? fun interface => interface.isOf vid pid && interface.isFirst).or
          (interfaces.find? (Interface.isOf vid pid))) = some chosen →
        (system.openFirst vid pid state).result = (system.openInterface chosen state).result ∧
        (system.openFirst vid pid state).system = (system.openInterface chosen state).system ∧
        ∀ opened, (system.openFirst vid pid state).result = .ok opened → opened = chosen) ∧
      ∀ device, (system.openFirst vid pid state).result = .error (.deviceNotFound device) ↔
        device = s!"{Hex.upperWord vid}:{Hex.upperWord pid}" ∧ ∃ interfaces,
          system.interfaces state = .ok interfaces ∧
          ∀ interface ∈ interfaces, interface.isOf vid pid = false := by
  constructor
  · intro interfaces
    exact ⟨Interface.matching_eq_append interfaces vid pid, Interface.count_matching interfaces vid pid⟩
  · intro σ system state
    constructor
    · intro interfaces chosen enumerated choice
      obtain ⟨result, after⟩ := system.openFirst_of_choice state vid pid enumerated choice
      refine ⟨result, after, fun opened succeeded => ?_⟩
      rw [result] at succeeded
      rcases system.openInterface_result state chosen with same | ⟨reason, refused, -⟩
      · rw [same] at succeeded
        exact (Except.ok.inj succeeded).symm
      · rw [refused] at succeeded
        cases succeeded
    · intro device
      rw [system.openFirst_deviceNotFound_iff state vid pid device, notFound, LinkError.deviceNotFound.injEq]
      exact and_congr_left fun _ => eq_comm

/-- An enumeration in which number 0 comes late, one interface comes twice and one has no number. -/
theorem System.openFirst_selects_late_zero :
    let interface (number : Int) (path : String) : Interface := ⟨0x1209, 1, path, number, none, none⟩
    let other : Interface := ⟨0x1209, 2, "other", 0, none, none⟩
    let interfaces := [interface 3 "c", other, interface (-1) "b", interface 0 "a", interface 3 "c",
      interface 0 "d"]
    let state : Simulation := { interfaces := interfaces.map fun interface => (interface, none) }
    Interface.matching interfaces 0x1209 1 =
        [interface 0 "a", interface 0 "d", interface 3 "c", interface (-1) "b", interface 3 "c"] ∧
      simulated.interfaces state = .ok interfaces ∧
      (simulated.openFirst 0x1209 1 state).result = .ok (interface 0 "a") ∧
      (simulated.openFirst 0x1209 1 state).system.opened = #["a"] := by
  intro interface other interfaces state
  obtain ⟨matching, opening⟩ := openFirst_selects 0x1209 1
  have enumerated : simulated.interfaces state = .ok interfaces := rfl
  obtain ⟨result, after, -⟩ := (opening simulated state).1 interfaces (interface 0 "a") enumerated
    (by decide)
  have whole : zeroPosition? (interface 0 "a").path = none := by decide +kernel
  have opened : (simulated.openInterface (interface 0 "a") state).result = .ok (interface 0 "a") ∧
      (simulated.openInterface (interface 0 "a") state).system.opened = #["a"] := by
    rw [System.openInterface, whole]
    exact ⟨rfl, rfl⟩
  refine ⟨(matching interfaces).1.trans (by decide), enumerated, result.trans opened.1, ?_⟩
  rw [after]
  exact opened.2

end PacketLink.Hid
