import Mathlib.Data.List.Count
import Turnstile.Proofs.Handles

/-!
# Buckets in the custody of their handles

A store is used through handles that are kept, dropped and written through in any
order, while buckets are looked at, removed by any test, and cleared all at once.
No removal parts a handle from its bucket: a handle taken since the last clearing
refers to the bucket stored under its key, and one from before keeps a bucket of
its own.

The invariant says where the bucket of every handle lives, that a slot counts the
handles that are out to it, and that a bucket is what was last written through its
handles.  New buckets have new births, so that a handle never comes to refer to a
bucket stored later under the same key.
-/

namespace Turnstile

/-- A store in use, with the handles that are out. -/
structure Custody where
  store : Store
  /-- The handles taken since the last clearing. -/
  current : List Handle
  /-- The handles from before it. -/
  former : List Handle
  /-- What has been written through handles, the latest first.  What a bucket is
  created with counts as written through its first handle. -/
  writes : List (Handle × Bucket)

namespace Custody

/-- An unused store. -/
def start : Custody where
  store := .empty
  current := []
  former := []
  writes := []

/-- What can be done with a store and its handles. -/
inductive Operation where
  /-- Takes a handle to the bucket of a key, created if there is none. -/
  | hold (key : String) (initial : Bucket)
  /-- Gives a handle back. -/
  | drop (handle : Handle)
  /-- Changes a bucket through a handle. -/
  | write (handle : Handle) (bucket : Bucket)
  /-- Looks at the bucket of a key. -/
  | snapshot (key : String)
  /-- Removes the buckets that may be evicted. -/
  | removeWhere (evictable : Bucket → Bool)
  /-- Forgets every key. -/
  | clear

/-- The handles that are out. -/
def live (custody : Custody) : List Handle :=
  custody.current ++ custody.former

/-- What was last written through the handles to one bucket. -/
def lastWritten (custody : Custody) (handle : Handle) : Option Bucket :=
  Store.firstFor handle custody.writes

/-- One operation.  Only a handle that is out can be given back or written
through. -/
def step (custody : Custody) : Operation → Custody
  | .hold key initial =>
      let acquired := custody.store.acquire key initial
      { custody with
        store := acquired.store
        current := acquired.handle :: custody.current
        writes :=
          if acquired.created then (acquired.handle, initial) :: custody.writes
          else custody.writes }
  | .drop handle =>
      if handle ∈ custody.live then
        { custody with
          store := custody.store.release handle
          current := custody.current.erase handle
          former := custody.former.erase handle }
      else custody
  | .write handle bucket =>
      if handle ∈ custody.live then
        { custody with
          store := custody.store.write handle bucket
          writes := (handle, bucket) :: custody.writes }
      else custody
  | .snapshot _ => custody
  | .removeWhere evictable =>
      { custody with store := (custody.store.removeWhere evictable).1 }
  | .clear =>
      { custody with
        store := custody.store.clear
        current := []
        former := custody.current ++ custody.former }

/-- A sequence of operations. -/
def run (custody : Custody) (operations : List Operation) : Custody :=
  operations.foldl step custody

/-- Whether a removal by the given test is free to take a stored bucket: no handle
to it is out, and it may be evicted. -/
def isFree
    (custody : Custody)
    (evictable : Bucket → Bool)
    (key : String)
    (slot : Slot) : Bool :=
  { key, birth := slot.birth } ∉ custody.live && evictable slot.bucket

/-- Where the buckets of all handles live, and what they hold. -/
structure Sound (custody : Custody) : Prop where
  /-- Stored buckets were created before the next one. -/
  born : ∀ {key slot}, custody.store.slots.get? key = some slot →
    slot.birth < custody.store.births
  /-- A stored slot counts its handles. -/
  counted : ∀ {key slot}, custody.store.slots.get? key = some slot →
    slot.handles = custody.current.count { key, birth := slot.birth }
  /-- A stored bucket is what was last written to it. -/
  written : ∀ {key slot}, custody.store.slots.get? key = some slot →
    custody.lastWritten { key, birth := slot.birth } = some slot.bucket
  /-- A handle taken since the last clearing refers to a stored slot. -/
  stored : ∀ handle ∈ custody.current,
    ∃ slot, custody.store.Refers handle slot
  /-- Detached buckets are not stored, and were created before the next one. -/
  apart : ∀ {handle slot}, (handle, slot) ∈ custody.store.detached →
    custody.store.IsDetached handle ∧ handle.birth < custody.store.births
  /-- A handle from before the last clearing has a detached slot, which counts its
  handles and holds what was last written to it. -/
  detached : ∀ handle ∈ custody.former,
    ∃ slot, Store.firstFor handle custody.store.detached = some slot ∧
      slot.handles = custody.former.count handle ∧
      custody.lastWritten handle = some slot.bucket

theorem sound_start : start.Sound where
  born stored := by cases stored
  counted stored := by cases stored
  written stored := by cases stored
  stored handle member := by cases member
  apart member := by cases member
  detached handle member := by cases member

section Sound

variable {custody : Custody}

theorem Sound.isDetached
    (sound : custody.Sound)
    {handle : Handle}
    (member : handle ∈ custody.former) : custody.store.IsDetached handle := by
  obtain ⟨slot, listed, -⟩ := sound.detached handle member
  exact (sound.apart (Store.mem_of_firstFor_eq_some listed)).1

/-- No handle is both from before and from after the last clearing. -/
theorem Sound.not_mem_former
    (sound : custody.Sound)
    {handle : Handle}
    (member : handle ∈ custody.current) : handle ∉ custody.former := by
  intro earlier
  obtain ⟨slot, refers⟩ := sound.stored handle member
  exact sound.isDetached earlier slot refers

/-- Only handles from after the last clearing refer to stored slots. -/
theorem Sound.mem_live_iff
    (sound : custody.Sound)
    {handle : Handle}
    {slot : Slot}
    (refers : custody.store.Refers handle slot) :
    handle ∈ custody.live ↔ handle ∈ custody.current := by
  rw [live, List.mem_append, or_iff_left]
  intro earlier
  exact sound.isDetached earlier slot refers

/-- The slots that handles refer to are the same after a change of one slot that
keeps its birth. -/
theorem isDetached_put_iff
    {before after : Store}
    {key : String}
    {slot next : Slot}
    (present : before.slots.get? key = some slot)
    (birth : next.birth = slot.birth)
    (changed : after.slots = before.slots.put key next)
    (handle : Handle) : after.IsDetached handle ↔ before.IsDetached handle := by
  have reads : after.slots.get? handle.key =
      if handle.key = key then some next else before.slots.get? handle.key := by
    rw [changed, Table.get?_put]
  by_cases keyed : handle.key = key
  · rw [if_pos keyed] at reads
    rw [← keyed] at present
    constructor
    · rintro detached other ⟨stored, same⟩
      rw [present, Option.some.injEq] at stored
      subst stored
      exact detached next ⟨reads, birth.trans same⟩
    · rintro detached other ⟨stored, same⟩
      rw [reads, Option.some.injEq] at stored
      subst stored
      exact detached slot ⟨present, birth.symm.trans same⟩
  · rw [if_neg keyed] at reads
    simp only [Store.IsDetached, Store.Refers, reads]

theorem Sound.not_isDetached
    (sound : custody.Sound)
    {handle : Handle}
    (member : handle ∈ custody.current) : ¬custody.store.IsDetached handle := by
  intro detached
  obtain ⟨slot, refers⟩ := sound.stored handle member
  exact detached slot refers

/-- A stored slot may change its bucket and count of handles, if its handles and
what is written to it change with it.  Detached slots without handles may go. -/
theorem Sound.evolve
    (sound : custody.Sound)
    {key : String}
    {slot : Slot}
    (present : custody.store.slots.get? key = some slot)
    (next : Slot)
    (birth : next.birth = slot.birth)
    {current : List Handle}
    (counts : next.handles = current.count { key, birth := slot.birth })
    (countsOthers : ∀ other : Handle, other ≠ { key, birth := slot.birth } →
      current.count other = custody.current.count other)
    {writes : List (Handle × Bucket)}
    (wrote : Store.firstFor { key, birth := slot.birth } writes =
      some next.bucket)
    (wroteOthers : ∀ other : Handle, other ≠ { key, birth := slot.birth } →
      Store.firstFor other writes = custody.lastWritten other)
    {detached : List (Handle × Slot)}
    (fewer : detached ⊆ custody.store.detached)
    (kept : ∀ handle ∈ custody.former, ∀ slot,
      Store.firstFor handle custody.store.detached = some slot →
        0 < slot.handles → Store.firstFor handle detached = some slot) :
    Sound {
      store := {
        slots := custody.store.slots.put key next
        detached
        births := custody.store.births }
      current
      former := custody.former
      writes } := by
  have others {stored : String} {other : Slot}
      (read : (custody.store.slots.put key next).get? stored = some other) :
      stored = key ∧ other = next ∨
        stored ≠ key ∧ custody.store.slots.get? stored = some other := by
    rw [Table.get?_put] at read
    split at read
    · next same => exact Or.inl ⟨same, (Option.some.inj read).symm⟩
    · next distinct => exact Or.inr ⟨distinct, read⟩
  let after : Store := {
    slots := custody.store.slots.put key next
    detached
    births := custody.store.births }
  have apart (handle : Handle) :
      after.IsDetached handle ↔ custody.store.IsDetached handle :=
    isDetached_put_iff present birth rfl handle
  refine ⟨?_, ?_, ?_, ?_, ?_, ?_⟩
  · intro stored other read
    obtain ⟨rfl, rfl⟩ | ⟨-, before⟩ := others read
    · rw [birth]
      exact sound.born present
    · exact sound.born before
  · intro stored other read
    obtain ⟨rfl, rfl⟩ | ⟨distinct, before⟩ := others read
    · rw [birth]
      exact counts
    · rw [sound.counted before]
      exact (countsOthers _ fun same => distinct (congrArg Handle.key same)).symm
  · intro stored other read
    obtain ⟨rfl, rfl⟩ | ⟨distinct, before⟩ := others read
    · rw [birth]
      exact wrote
    · rw [← sound.written before]
      exact wroteOthers _ fun same => distinct (congrArg Handle.key same)
  · intro handle member
    by_contra absent
    have detachedBefore := (apart handle).1 (not_exists.1 absent)
    by_cases same : handle = { key, birth := slot.birth }
    · exact detachedBefore slot (same ▸ ⟨present, rfl⟩)
    · rw [← List.count_pos_iff, countsOthers handle same, List.count_pos_iff]
        at member
      exact sound.not_isDetached member detachedBefore
  · intro handle other member
    obtain ⟨detachedBefore, earlier⟩ := sound.apart (fewer member)
    exact ⟨(apart handle).2 detachedBefore, earlier⟩
  · intro handle member
    obtain ⟨other, listed, counted, written⟩ := sound.detached handle member
    have positive : 0 < other.handles := by
      rw [counted]
      exact List.count_pos_iff.2 member
    refine ⟨other, kept handle member other listed positive, counted, ?_⟩
    rw [← written]
    apply wroteOthers
    rintro rfl
    exact sound.isDetached member slot ⟨present, rfl⟩

/-- A detached slot may change its bucket and count of handles in the same
way. -/
theorem Sound.evolve_detached
    (sound : custody.Sound)
    {handle : Handle}
    (member : handle ∈ custody.former)
    (change : Slot → Slot)
    {former : List Handle}
    (counts : ∀ slot,
      Store.firstFor handle custody.store.detached = some slot →
        (change slot).handles = former.count handle)
    (countsOthers : ∀ other : Handle, other ≠ handle →
      former.count other = custody.former.count other)
    {writes : List (Handle × Bucket)}
    (wrote : ∀ slot,
      Store.firstFor handle custody.store.detached = some slot →
        Store.firstFor handle writes = some (change slot).bucket)
    (wroteOthers : ∀ other : Handle, other ≠ handle →
      Store.firstFor other writes = custody.lastWritten other)
    {detached : List (Handle × Slot)}
    (fewer : detached ⊆ custody.store.detached.map fun entry =>
      if entry.1 = handle then (entry.1, change entry.2) else entry)
    (kept : ∀ other ∈ former, ∀ slot,
      Store.firstFor other (custody.store.detached.map fun entry =>
          if entry.1 = handle then (entry.1, change entry.2) else entry) =
        some slot →
      0 < slot.handles → Store.firstFor other detached = some slot) :
    Sound {
      store := {
        slots := custody.store.slots
        detached
        births := custody.store.births }
      current := custody.current
      former
      writes } := by
  have unstored := sound.isDetached member
  refine ⟨sound.born, sound.counted, ?_, sound.stored, ?_, ?_⟩
  · intro key slot present
    rw [← sound.written present]
    apply wroteOthers
    rintro rfl
    exact unstored slot ⟨present, rfl⟩
  · intro other slot listed
    obtain ⟨⟨before, stored⟩, present, same⟩ := List.mem_map.1 (fewer listed)
    have named : before = other := by
      split at same <;> exact congrArg Prod.fst same
    subst named
    exact sound.apart present
  · intro other memberOther
    have positive := List.count_pos_iff.2 memberOther
    have mapped := Store.firstFor_map handle other change custody.store.detached
    by_cases same : other = handle
    · subst same
      obtain ⟨slot, listed, -⟩ := sound.detached other member
      rw [if_pos rfl, listed, Option.map_some] at mapped
      rw [← counts slot listed] at positive
      exact ⟨change slot, kept other memberOther _ mapped positive,
        counts slot listed, wrote slot listed⟩
    · rw [countsOthers other same] at positive
      obtain ⟨slot, listed, counted, written⟩ :=
        sound.detached other (List.count_pos_iff.1 positive)
      rw [if_neg same, listed] at mapped
      rw [← counted] at positive
      refine ⟨slot, kept other memberOther _ mapped positive, ?_, ?_⟩
      · rw [countsOthers other same, counted]
      · rw [← written]
        exact wroteOthers other same

/-! ## One operation -/

/-- A new bucket is stored where there was none, with one handle to it. -/
theorem Sound.create
    (sound : custody.Sound)
    {key : String}
    (absent : custody.store.slots.get? key = none)
    (initial : Bucket) :
    Sound {
      store := {
        slots := custody.store.slots.put key
          { birth := custody.store.births, bucket := initial, handles := 1 }
        detached := custody.store.detached
        births := custody.store.births + 1 }
      current := { key, birth := custody.store.births } :: custody.current
      former := custody.former
      writes :=
        ({ key, birth := custody.store.births }, initial) :: custody.writes } := by
  have keyed : ∀ handle ∈ custody.current, handle.key ≠ key := by
    rintro handle member rfl
    obtain ⟨slot, present, -⟩ := sound.stored handle member
    rw [absent] at present
    cases present
  have unheld : custody.current.count { key, birth := custody.store.births } = 0 :=
    List.count_eq_zero.2 fun member => keyed _ member rfl
  refine ⟨?_, ?_, ?_, ?_, ?_, ?_⟩
  · intro stored slot present
    dsimp only at present ⊢
    rw [Table.get?_put] at present
    split at present
    · rw [← Option.some.inj present]
      exact Nat.lt_succ_self _
    · exact Nat.lt_succ_of_lt (sound.born present)
  · intro stored slot present
    dsimp only at present ⊢
    rw [Table.get?_put] at present
    split at present
    · next same =>
        rw [← Option.some.inj present, same, List.count_cons_self, unheld]
    · next distinct =>
        rw [sound.counted present, List.count_cons_of_ne]
        exact fun same => distinct (congrArg Handle.key same).symm
  · intro stored slot present
    dsimp only [lastWritten] at present ⊢
    rw [Table.get?_put] at present
    rw [Store.firstFor_cons]
    split at present
    · next same => rw [← Option.some.inj present, same, if_pos rfl]
    · next distinct =>
        rw [if_neg fun same => distinct (congrArg Handle.key same).symm]
        exact sound.written present
  · intro handle member
    obtain rfl | member := List.mem_cons.1 member
    · exact ⟨_, Table.get?_put_self .., rfl⟩
    · obtain ⟨slot, present, birth⟩ := sound.stored handle member
      refine ⟨slot, ?_, birth⟩
      dsimp only
      rw [Table.get?_put_of_ne _ (keyed handle member), present]
  · intro handle slot listed
    obtain ⟨unstored, earlier⟩ := sound.apart listed
    refine ⟨?_, Nat.lt_succ_of_lt earlier⟩
    rintro other ⟨present, birth⟩
    dsimp only at present
    rw [Table.get?_put] at present
    split at present
    · rw [← Option.some.inj present] at birth
      exact Nat.ne_of_gt earlier birth
    · exact unstored other ⟨present, birth⟩
  · intro handle member
    obtain ⟨slot, listed, counted, written⟩ := sound.detached handle member
    have earlier := (sound.apart (Store.mem_of_firstFor_eq_some listed)).2
    refine ⟨slot, listed, counted, ?_⟩
    rw [← written, lastWritten, Store.firstFor_cons, if_neg]
    · rfl
    · rintro rfl
      exact Nat.lt_irrefl _ earlier

theorem Sound.hold
    (sound : custody.Sound)
    (key : String)
    (initial : Bucket) : (custody.step (.hold key initial)).Sound := by
  cases present : custody.store.slots.get? key with
  | none =>
      have taken : custody.store.acquire key initial =
          { store := {
              slots := custody.store.slots.put key
                { birth := custody.store.births, bucket := initial, handles := 1 }
              detached := custody.store.detached
              births := custody.store.births + 1 }
            handle := { key, birth := custody.store.births }
            created := true } := by
        rw [Store.acquire, Store.acquire?, present]
        rfl
      simp only [step, taken]
      exact sound.create present initial
  | some slot =>
      have taken : custody.store.acquire key initial =
          { store := {
              slots := custody.store.slots.put key
                { slot with handles := slot.handles + 1 }
              detached := custody.store.detached
              births := custody.store.births }
            handle := { key, birth := slot.birth }
            created := false } := by
        rw [Store.acquire, Store.acquire?, present]
        rfl
      simp only [step, taken]
      apply sound.evolve present { slot with handles := slot.handles + 1 } rfl
        ?_ ?_ (sound.written present) (fun _ _ => rfl) (List.Subset.refl _)
        (fun _ _ _ listed _ => listed)
      · rw [List.count_cons_self, ← sound.counted present]
      · intro other distinct
        exact List.count_cons_of_ne (Ne.symm distinct)

theorem Sound.drop
    (sound : custody.Sound)
    (handle : Handle) : (custody.step (.drop handle)).Sound := by
  have kept {detached : List (Handle × Slot)} {other : Handle} {slot : Slot}
      (listed : Store.firstFor other detached = some slot)
      (positive : 0 < slot.handles) :
      Store.firstFor other (detached.filter fun entry => 0 < entry.2.handles) =
        some slot :=
    Store.firstFor_filter listed (decide_eq_true positive)
  rw [step]
  split
  · next live =>
      by_cases now : handle ∈ custody.current
      · obtain ⟨slot, refers⟩ := sound.stored handle now
        obtain ⟨present, birth⟩ := id refers
        have same : handle = { key := handle.key, birth := slot.birth } := by
          rw [birth]
        rw [Store.release, refers.modify,
          List.erase_of_not_mem (sound.not_mem_former now)]
        apply sound.evolve present { slot with handles := slot.handles - 1 } rfl
          ?_ ?_ (sound.written present) (fun _ _ => rfl)
          List.filter_sublist.subset (fun _ _ _ listed positive => kept listed positive)
        · rw [← same, List.count_erase_self, sound.counted present, ← same]
        · intro other distinct
          rw [← same] at distinct
          exact List.count_erase_of_ne distinct
      · have before : handle ∈ custody.former :=
          (List.mem_append.1 live).resolve_left now
        rw [Store.release, (sound.isDetached before).modify,
          List.erase_of_not_mem now]
        apply sound.evolve_detached before
          (fun slot => { slot with handles := slot.handles - 1 }) ?_ ?_ ?_
          (fun _ _ => rfl) List.filter_sublist.subset
          (fun _ _ _ listed positive => kept listed positive)
        · intro slot listed
          obtain ⟨other, listedAlso, counted, -⟩ := sound.detached handle before
          rw [listed, Option.some.injEq] at listedAlso
          rw [List.count_erase_self, listedAlso, counted]
        · intro other distinct
          exact List.count_erase_of_ne distinct
        · intro slot listed
          obtain ⟨other, listedAlso, -, written⟩ := sound.detached handle before
          rw [listed, Option.some.injEq] at listedAlso
          rw [listedAlso]
          exact written
  · exact sound

theorem Sound.write
    (sound : custody.Sound)
    (handle : Handle)
    (bucket : Bucket) : (custody.step (.write handle bucket)).Sound := by
  have wroteOthers (other : Handle) (distinct : other ≠ handle) :
      Store.firstFor other ((handle, bucket) :: custody.writes) =
        custody.lastWritten other := by
    rw [Store.firstFor_cons, if_neg (Ne.symm distinct), lastWritten]
  have wrote : Store.firstFor handle ((handle, bucket) :: custody.writes) =
      some bucket := by
    rw [Store.firstFor_cons, if_pos rfl]
  rw [step]
  split
  · next live =>
      by_cases now : handle ∈ custody.current
      · obtain ⟨slot, refers⟩ := sound.stored handle now
        obtain ⟨present, birth⟩ := id refers
        have same : { key := handle.key, birth := slot.birth } = handle := by
          rw [birth]
        have counted := sound.counted present
        rw [Store.write, refers.modify]
        apply sound.evolve present { slot with bucket } rfl counted
          (fun _ _ => rfl) ?_ ?_ (List.Subset.refl _)
          (fun _ _ _ listed _ => listed)
        · rw [same]
          exact wrote
        · rw [same]
          exact wroteOthers
      · have before : handle ∈ custody.former :=
          (List.mem_append.1 live).resolve_left now
        rw [Store.write, (sound.isDetached before).modify]
        apply sound.evolve_detached before (fun slot => { slot with bucket }) ?_
          (fun _ _ => rfl) (fun _ _ => wrote) wroteOthers (List.Subset.refl _)
          (fun _ _ _ listed _ => listed)
        intro slot listed
        obtain ⟨other, listedAlso, counted, -⟩ := sound.detached handle before
        rw [listed, Option.some.injEq] at listedAlso
        rw [listedAlso, counted]
  · exact sound

/-- A removal takes no slot that a handle is out to. -/
theorem Sound.removeWhere
    (sound : custody.Sound)
    (evictable : Bucket → Bool) :
    (custody.step (.removeWhere evictable)).Sound := by
  have before {key : String} {slot : Slot}
      (read : (custody.store.removeWhere evictable).1.slots.get? key =
        some slot) : custody.store.slots.get? key = some slot := by
    rw [Store.removeWhere, Table.get?_filter, Option.filter_eq_some_iff] at read
    exact read.1
  refine ⟨fun read => sound.born (before read),
    fun read => sound.counted (before read),
    fun read => sound.written (before read), ?_, ?_, sound.detached⟩
  · intro handle member
    obtain ⟨slot, present, birth⟩ := sound.stored handle member
    refine ⟨slot, ?_, birth⟩
    have held : 0 < slot.handles := by
      rw [sound.counted present, birth]
      exact List.count_pos_iff.2 member
    change (custody.store.removeWhere evictable).1.slots.get? _ = _
    rw [Store.removeWhere, Table.get?_filter, present, Option.filter_some_pos]
    simp [Slot.isKept, held]
  · intro handle slot listed
    obtain ⟨unstored, earlier⟩ := sound.apart listed
    exact ⟨fun other refers => unstored other ⟨before refers.1, refers.2⟩, earlier⟩

/-- A clearing detaches the buckets that handles are out to. -/
theorem Sound.clear (sound : custody.Sound) : (custody.step .clear).Sound := by
  refine ⟨?_, ?_, ?_, ?_, ?_, ?_⟩
  · intro key slot present
    cases present
  · intro key slot present
    cases present
  · intro key slot present
    cases present
  · intro handle member
    cases member
  · intro handle slot listed
    refine ⟨fun other refers => (nomatch refers.1), ?_⟩
    obtain before | ⟨⟨present, birth⟩, -⟩ := Store.mem_detached_clear.1 listed
    · exact (sound.apart before).2
    · rw [← birth]
      exact sound.born present
  · intro handle member
    by_cases now : handle ∈ custody.current
    · obtain ⟨slot, refers⟩ := sound.stored handle now
      obtain ⟨present, birth⟩ := id refers
      have same : { key := handle.key, birth := slot.birth } = handle := by
        rw [birth]
      have counted := sound.counted present
      have written := sound.written present
      rw [same] at counted written
      have held : 0 < slot.handles := by
        rw [counted]
        exact List.count_pos_iff.2 now
      refine ⟨slot, Store.firstFor_eq_some ?_ ?_, ?_, written⟩
      · exact Store.mem_detached_clear.2 (Or.inr ⟨refers, held⟩)
      · intro other listed
        obtain before | ⟨refersAlso, -⟩ := Store.mem_detached_clear.1 listed
        · exact absurd refers ((sound.apart before).1 slot)
        · exact refersAlso.unique refers
      · change slot.handles = (custody.current ++ custody.former).count handle
        rw [List.count_append, counted,
          List.count_eq_zero.2 (sound.not_mem_former now), Nat.add_zero]
    · have before : handle ∈ custody.former :=
        (List.mem_append.1 member).resolve_left now
      obtain ⟨slot, listed, counted, written⟩ := sound.detached handle before
      refine ⟨slot, ?_, ?_, written⟩
      · change Store.firstFor handle custody.store.clear.detached = some slot
        rw [Store.clear, Store.firstFor_append, listed, Option.some_or]
      · change slot.handles = (custody.current ++ custody.former).count handle
        rw [List.count_append, List.count_eq_zero.2 now, Nat.zero_add, counted]

theorem Sound.step
    (sound : custody.Sound)
    (operation : Operation) : (custody.step operation).Sound := by
  cases operation with
  | hold key initial => exact sound.hold key initial
  | drop handle => exact sound.drop handle
  | write handle bucket => exact sound.write handle bucket
  | snapshot key => exact sound
  | removeWhere evictable => exact sound.removeWhere evictable
  | clear => exact sound.clear

theorem Sound.run
    (sound : custody.Sound)
    (operations : List Operation) : (custody.run operations).Sound := by
  induction operations generalizing custody with
  | nil => exact sound
  | cons operation operations inductionHypothesis =>
      exact inductionHypothesis (sound.step operation)

/-! ## What handles and removals can rely on -/

/-- A handle from after the last clearing reads the stored bucket, which is what
was last written to it. -/
theorem Sound.read_current
    (sound : custody.Sound)
    {handle : Handle}
    (member : handle ∈ custody.current) :
    ∃ slot, custody.store.Refers handle slot ∧
      custody.lastWritten handle = some slot.bucket ∧
      custody.store.read? handle = some slot.bucket ∧
      custody.store.snapshot? handle.key = some slot.bucket := by
  obtain ⟨slot, refers⟩ := sound.stored handle member
  obtain ⟨present, birth⟩ := id refers
  have written := sound.written present
  rw [birth] at written
  refine ⟨slot, refers, written, refers.read?, ?_⟩
  rw [Store.snapshot?, present, Option.map_some]

/-- A handle from before the last clearing reads what was last written to its own
bucket. -/
theorem Sound.read_former
    (sound : custody.Sound)
    {handle : Handle}
    (member : handle ∈ custody.former) :
    ∃ bucket, custody.lastWritten handle = some bucket ∧
      custody.store.read? handle = some bucket := by
  obtain ⟨slot, listed, -, written⟩ := sound.detached handle member
  refine ⟨slot.bucket, written, ?_⟩
  rw [(sound.isDetached member).read?, listed, Option.map_some]

/-- A removal takes the stored buckets that it is free to take, and counts
them. -/
theorem Sound.removeWhere_eq
    (sound : custody.Sound)
    (evictable : Bucket → Bool) :
    custody.store.removeWhere evictable =
      ({ custody.store with
          slots := custody.store.slots.filter fun key slot =>
            !custody.isFree evictable key slot },
        custody.store.slots.entries.countP fun entry =>
          custody.isFree evictable entry.1 entry.2) := by
  have taken : ∀ entry ∈ custody.store.slots.entries,
      entry.2.isKept evictable = !custody.isFree evictable entry.1 entry.2 := by
    rintro ⟨key, slot⟩ listed
    have present := (Table.get?_eq_some_iff ..).2 listed
    have refers : custody.store.Refers { key, birth := slot.birth } slot :=
      ⟨present, rfl⟩
    have held : 0 < slot.handles ↔
        { key, birth := slot.birth } ∈ custody.live := by
      rw [sound.mem_live_iff refers, sound.counted present, List.count_pos_iff]
    simp [Slot.isKept, isFree, held]
  have left : (custody.store.slots.filter fun _ slot => slot.isKept evictable) =
      custody.store.slots.filter fun key slot =>
        !custody.isFree evictable key slot :=
    Table.ext (List.filter_congr taken)
  have number := List.length_eq_length_filter_add
    (l := custody.store.slots.entries)
    fun entry => custody.isFree evictable entry.1 entry.2
  rw [Store.removeWhere, left, List.countP_eq_length_filter]
  refine Prod.ext rfl ?_
  change custody.store.slots.entries.length - List.length _ = _
  exact Nat.sub_eq_of_eq_add number

/-- The handles of detached buckets, too, were created before the next one. -/
theorem Sound.birth_lt
    (sound : custody.Sound)
    {handle : Handle}
    (member : handle ∈ custody.former) : handle.birth < custody.store.births := by
  obtain ⟨slot, listed, -⟩ := sound.detached handle member
  exact (sound.apart (Store.mem_of_firstFor_eq_some listed)).2

end Sound

theorem births_le_step (custody : Custody) (operation : Operation) :
    custody.store.births ≤ (custody.step operation).store.births := by
  cases operation with
  | hold key initial =>
      change _ ≤ (custody.store.acquire key initial).store.births
      rw [Store.births_acquire]
      exact Nat.le_add_right ..
  | drop handle =>
      rw [step]
      split
      · exact Nat.le_of_eq (Store.births_modify ..).symm
      · exact Nat.le_refl _
  | write handle bucket =>
      rw [step]
      split
      · exact Nat.le_of_eq (Store.births_modify ..).symm
      · exact Nat.le_refl _
  | snapshot key => exact Nat.le_refl _
  | removeWhere evictable => exact Nat.le_refl _
  | clear => exact Nat.le_refl _

/-- Only writing through its handles changes what was last written to a bucket
that has been created. -/
theorem lastWritten_step
    {custody : Custody}
    {handle : Handle}
    (created : handle.birth < custody.store.births)
    {operation : Operation}
    (unwritten : ∀ bucket, operation ≠ .write handle bucket) :
    (custody.step operation).lastWritten handle =
      custody.lastWritten handle := by
  cases operation with
  | hold key initial =>
      change Store.firstFor handle (if _ then _ else _) = _
      split
      · next fresh =>
          rw [Store.created_acquire, Option.isNone_iff_eq_none] at fresh
          rw [Store.firstFor_cons, if_neg]
          · rfl
          · rw [Store.handle_acquire, Store.slotFor, fresh]
            rintro rfl
            exact Nat.lt_irrefl _ created
      · rfl
  | drop other =>
      rw [step]
      split <;> rfl
  | write other bucket =>
      rw [step]
      split
      · rw [lastWritten, Store.firstFor_cons, if_neg]
        · rfl
        · rintro rfl
          exact unwritten bucket rfl
      · rfl
  | snapshot key => rfl
  | removeWhere evictable => rfl
  | clear => rfl

theorem lastWritten_run
    {custody : Custody}
    {handle : Handle}
    (created : handle.birth < custody.store.births)
    {operations : List Operation}
    (unwritten : ∀ bucket, .write handle bucket ∉ operations) :
    (custody.run operations).lastWritten handle =
      custody.lastWritten handle := by
  induction operations generalizing custody with
  | nil => rfl
  | cons operation operations inductionHypothesis =>
      have tail := inductionHypothesis
        (Nat.lt_of_lt_of_le created (custody.births_le_step operation))
        fun bucket member => unwritten bucket (List.mem_cons_of_mem _ member)
      have head := lastWritten_step created fun bucket same =>
        unwritten bucket (same ▸ List.mem_cons_self)
      exact tail.trans head

/-- No removal detaches a handle, whatever is done with a store and its handles.
A handle from after the last clearing refers to the bucket stored under its key,
so that there is one such handle value for each key, and the store shows under
the key what was last written through it.  A handle from before keeps a bucket
apart from the stored ones, and it reads the same until it is written through.  A
removal takes exactly the buckets that no handle is out to and that its test
allows, and reports their number. -/
theorem custody_of_every_run (operations : List Operation) :
    let custody := start.run operations
    (∀ handle ∈ custody.current,
      ∃ slot, custody.store.Refers handle slot ∧
        custody.lastWritten handle = some slot.bucket ∧
        custody.store.read? handle = some slot.bucket ∧
        custody.store.snapshot? handle.key = some slot.bucket) ∧
      (∀ first ∈ custody.current, ∀ second ∈ custody.current,
        first.key = second.key → first = second) ∧
      (∀ handle ∈ custody.former,
        (∀ slot, ¬custody.store.Refers handle slot) ∧
        (∃ bucket, custody.lastWritten handle = some bucket ∧
          custody.store.read? handle = some bucket) ∧
        ∀ later, (∀ bucket, .write handle bucket ∉ later) →
          handle ∈ (custody.run later).former →
          (custody.run later).store.read? handle =
            custody.store.read? handle) ∧
      ∀ evictable,
        custody.store.removeWhere evictable =
          ({ custody.store with
              slots := custody.store.slots.filter fun key slot =>
                !custody.isFree evictable key slot },
            custody.store.slots.entries.countP fun entry =>
              custody.isFree evictable entry.1 entry.2) := by
  intro custody
  have sound : custody.Sound := sound_start.run operations
  refine ⟨?_, ?_, ?_, ?_⟩
  · intro handle member
    exact sound.read_current member
  · intro first member second memberAlso keyed
    obtain ⟨slot, refers⟩ := sound.stored first member
    obtain ⟨other, refersAlso⟩ := sound.stored second memberAlso
    exact refers.handle_eq refersAlso keyed
  · intro handle member
    obtain ⟨bucket, written, read⟩ := sound.read_former member
    refine ⟨sound.isDetached member, ⟨bucket, written, read⟩, ?_⟩
    intro later unwritten out
    obtain ⟨after, writtenAfter, readAfter⟩ := (sound.run later).read_former out
    rw [lastWritten_run (sound.birth_lt member) unwritten] at writtenAfter
    rw [readAfter, read, ← writtenAfter, written]
  · intro evictable
    exact sound.removeWhere_eq evictable

/-- Two handles to one bucket, a write through them, a removal that they withstand
and another key does not, and a clearing after which the key is stored anew.  The
old handles keep what was written, through a write to the new bucket and its
removal. -/
theorem custody_across_clearing :
    let written : Bucket := { tokens := 1, lastRefillMs := 7 }
    let renewed : Bucket := { tokens := 3, lastRefillMs := 9 }
    let custody := start.run
      [.hold "a" default, .hold "a" renewed, .hold "b" renewed,
        .write { key := "a", birth := 0 } written,
        .drop { key := "b", birth := 1 }, .removeWhere fun _ => true,
        .clear, .hold "a" renewed]
    let later : List Operation :=
      [.write { key := "a", birth := 2 } default,
        .drop { key := "a", birth := 2 }, .removeWhere fun _ => true]
    { key := "a", birth := 2 } ∈ custody.current ∧
      custody.former = [{ key := "a", birth := 0 }, { key := "a", birth := 0 }] ∧
      custody.store.snapshot? "a" =
        custody.lastWritten { key := "a", birth := 2 } ∧
      custody.lastWritten { key := "a", birth := 2 } = some renewed ∧
      (custody.run later).store.read? { key := "a", birth := 0 } =
        some written ∧
      ((custody.run (later.take 2)).store.removeWhere fun _ => true).2 = 1 := by
  intro written renewed custody later
  have current : { key := "a", birth := 2 } ∈ custody.current := by decide
  have former : { key := "a", birth := 0 } ∈ custody.former := by decide
  obtain ⟨stored, -, kept, -⟩ := custody_of_every_run
    [.hold "a" default, .hold "a" renewed, .hold "b" renewed,
      .write { key := "a", birth := 0 } written,
      .drop { key := "b", birth := 1 }, .removeWhere fun _ => true,
      .clear, .hold "a" renewed]
  obtain ⟨slot, -, last, -, shown⟩ := stored _ current
  obtain ⟨-, -, unchanged⟩ := kept _ former
  have unwritten : ∀ bucket,
      Operation.write { key := "a", birth := 0 } bucket ∉ later := by
    simp [later]
  have read := unchanged later unwritten (by decide)
  refine ⟨current, by decide, shown.trans last.symm, by decide, ?_, by decide⟩
  exact read.trans (by decide)

end Custody
end Turnstile
