import SourceMark.Overlay.Store
import SourceMark.Proofs.Evaluation
import SourceMark.Proofs.Files.Disks
import SourceMark.Proofs.Json.RoundTrip

/-!
# Laws of stores

A store that can be read keeps what is written to it, and goes on keeping the
texts of all other keys; for a file this means that its new content is read back.
A store that cannot be read takes nothing, and stays as it is.
-/

namespace SourceMark

namespace Overlay

namespace Entries

/-- Each key has one text. -/
def AreDistinct (entries : Entries) : Prop :=
  (entries.map Prod.fst).Nodup

/-- Some texts set one after the other. -/
def putAll (texts : List (String × String)) (entries : Entries) : Entries :=
  texts.foldl (fun entries text => put text.1 text.2 entries) entries

section Put

variable (key value : String)

theorem lookup_put (entries : Entries) (other : String) :
    (put key value entries).lookup other =
      if other = key then some value else entries.lookup other := by
  induction entries with
  | nil =>
      by_cases same : other = key
      · simp [put, same]
      · have unlike : (other == key) = false := beq_false_of_ne same
        simp [put, same, unlike]
  | cons entry entries induction =>
      obtain ⟨name, text⟩ := entry
      by_cases here : name = key
      · subst name
        by_cases same : other = key
        · simp [put, same]
        · have unlike : (other == key) = false := beq_false_of_ne same
          simp [put, same, unlike, List.lookup_cons]
      · rw [put, if_neg here]
        by_cases same : other = name
        · subst other
          simp [here]
        · have unlike : (other == name) = false := beq_false_of_ne same
          simp only [List.lookup_cons, unlike]
          exact induction

theorem mem_keys_put (entries : Entries) (other : String) :
    other ∈ (put key value entries).map Prod.fst ↔
      other = key ∨ other ∈ entries.map Prod.fst := by
  induction entries with
  | nil => simp [put]
  | cons entry entries induction =>
      by_cases here : entry.1 = key
      · simp [put, here]
      · rw [put, if_neg here, List.map_cons, List.mem_cons, induction,
          List.map_cons, List.mem_cons]
        constructor
        · rintro (rfl | rfl | member)
          · exact .inr (.inl rfl)
          · exact .inl rfl
          · exact .inr (.inr member)
        · rintro (rfl | rfl | member)
          · exact .inr (.inl rfl)
          · exact .inl rfl
          · exact .inr (.inr member)

theorem areDistinct_put {entries : Entries} (distinct : entries.AreDistinct) :
    (put key value entries).AreDistinct := by
  induction entries with
  | nil => simp [put, AreDistinct]
  | cons entry entries induction =>
      obtain ⟨absent, later⟩ := List.nodup_cons.mp distinct
      by_cases here : entry.1 = key
      · rw [put, if_pos here]
        exact List.nodup_cons.mpr ⟨here ▸ absent, later⟩
      · rw [put, if_neg here]
        apply List.nodup_cons.mpr
        refine ⟨?_, induction later⟩
        intro member
        rcases (mem_keys_put key value entries entry.1).mp member with same | old
        · exact here same
        · exact absent old

/-- A new key comes last. -/
theorem put_of_absent {entries : Entries}
    (absent : key ∉ entries.map Prod.fst) :
    put key value entries = entries ++ [(key, value)] := by
  induction entries with
  | nil => rfl
  | cons entry entries induction =>
      rw [List.map_cons, List.mem_cons, not_or] at absent
      rw [put, if_neg (Ne.symm absent.1), induction absent.2, List.cons_append]

end Put

theorem areDistinct_putAll (texts : List (String × String)) {entries : Entries}
    (distinct : entries.AreDistinct) : (putAll texts entries).AreDistinct := by
  induction texts generalizing entries with
  | nil => exact distinct
  | cons text texts induction =>
      exact induction (areDistinct_put text.1 text.2 distinct)

/-- Distinct entries are what setting them one after the other makes. -/
theorem putAll_of_areDistinct {texts entries : Entries}
    (distinct : (entries ++ texts).AreDistinct) :
    putAll texts entries = entries ++ texts := by
  induction texts generalizing entries with
  | nil => rw [List.append_nil]; rfl
  | cons text texts induction =>
      have absent : text.1 ∉ entries.map Prod.fst := by
        intro member
        rw [AreDistinct, List.map_append] at distinct
        exact (List.nodup_append.mp distinct).2.2 _ member _
          (List.mem_map_of_mem List.mem_cons_self) rfl
      rw [← List.singleton_append, ← List.append_assoc] at distinct ⊢
      rw [← induction distinct, ← put_of_absent text.1 text.2 absent]
      rfl

theorem ofFields?_texts (texts : List (String × String)) (entries : Entries) :
    ofFields? entries (Json.textFields texts) = some (putAll texts entries) := by
  induction texts generalizing entries with
  | nil => rfl
  | cons text texts induction => exact induction (put text.1 text.2 entries)

/-- Fields are read exactly when all of them are texts. -/
theorem eq_texts_of_ofFields? {fields : List (String × Json)}
    {known entries : Entries} (read : ofFields? known fields = some entries) :
    ∃ texts, fields = Json.textFields texts ∧ entries = putAll texts known := by
  induction fields generalizing known with
  | nil =>
      obtain rfl := Option.some.inj read
      exact ⟨[], rfl, rfl⟩
  | cons field fields induction =>
      obtain ⟨name, value⟩ := field
      cases value with
      | string text =>
          obtain ⟨texts, rfl, rfl⟩ := induction read
          exact ⟨(name, text) :: texts, rfl, rfl⟩
      | _ => simp [ofFields?] at read

theorem isBlankText_content (entries : Entries) :
    Text.isBlankText entries.content.toList = false := by
  cases entries with
  | nil => decide +kernel
  | cons entry entries =>
      simp [content, Json.pretty, Json.prettyAt, Text.isBlankText,
        show Text.isBlank '\x7b' = false by decide]

/-- What is written to a file is read back. -/
theorem ofContent?_content {entries : Entries}
    (distinct : entries.AreDistinct) :
    ofContent? entries.content = some entries := by
  have read : Json.read? entries.content = some (Json.ofTexts entries) :=
    Json.read?_pretty entries
  unfold ofContent?
  rw [isBlankText_content, read]
  have whole : putAll entries [] = [] ++ entries :=
    putAll_of_areDistinct distinct
  simp only [Json.ofTexts, Bool.false_eq_true, if_false, ofFields?_texts, whole,
    List.nil_append]

/-- A file is read as a store exactly if it is blank or a record of texts. -/
theorem ofContent?_eq_some_iff {content : String} {entries : Entries} :
    ofContent? content = some entries ↔
      (Text.isBlankText content.toList = true ∧ entries = []) ∨
        ∃ texts, Json.read? content = some (Json.ofTexts texts) ∧
          entries = putAll texts [] := by
  cases blank : Text.isBlankText content.toList with
  | true =>
      simp [ofContent?, blank, Json.read?_of_isBlankText blank, eq_comm]
  | false =>
      simp only [ofContent?, blank, Bool.false_eq_true, if_false, false_and,
        false_or]
      constructor
      · intro read
        split at read
        · next fields spelled =>
            obtain ⟨texts, rfl, rfl⟩ := eq_texts_of_ofFields? read
            exact ⟨texts, spelled, rfl⟩
        · simp at read
      · rintro ⟨texts, spelled, rfl⟩
        rw [spelled]
        exact ofFields?_texts texts []

theorem areDistinct_of_ofContent? {content : String} {entries : Entries}
    (read : ofContent? content = some entries) : entries.AreDistinct := by
  rcases ofContent?_eq_some_iff.mp read with ⟨_, rfl⟩ | ⟨texts, _, rfl⟩
  · exact List.nodup_nil
  · exact areDistinct_putAll texts List.nodup_nil

end Entries

namespace Store

variable {store : Store} {entries : Entries}

/-- A store that can be read keeps what is written, and all else that it had. -/
theorem entries_write (readable : store.entries = .ok entries)
    (key value : String) :
    ∃ changed, (store.write key value).entries = .ok changed ∧
      ∀ other, changed.lookup other =
        if other = key then some value else entries.lookup other := by
  refine ⟨entries.put key value, ?_, Entries.lookup_put key value entries⟩
  have written : store.write key value =
      store.withEntries (entries.put key value) := by
    simp [write, set, readable, Except.map]
  rw [written]
  cases store with
  | memory kept => rfl
  | unavailable => simp [Store.entries] at readable
  | file content =>
      have distinct : entries.AreDistinct := by
        cases content with
        | none =>
            obtain rfl := Except.ok.inj readable
            exact List.nodup_nil
        | some content =>
            simp only [Store.entries] at readable
            split at readable
            · next read =>
                obtain rfl := Except.ok.inj readable
                exact Entries.areDistinct_of_ofContent? read
            · simp at readable
      simp only [withEntries, Store.entries]
      rw [Entries.ofContent?_content
        (Entries.areDistinct_put key value distinct)]

theorem get_of_readable (readable : store.entries = .ok entries)
    (key : String) : store.get key = .ok (entries.lookup key) := by
  simp [get, readable, Except.map]

/-- A store that cannot be read takes nothing. -/
theorem write_of_unreadable {fault : StoreFault}
    (unreadable : store.entries = .error fault) (key value : String) :
    store.write key value = store := by
  simp [write, set, unreadable, Except.map]

theorem read?_of_unreadable {fault : StoreFault}
    (unreadable : store.entries = .error fault) (key : String) :
    store.read? key = none := by
  simp [read?, get, unreadable, Except.map]

theorem unreadable_of_get {key : String} {fault : StoreFault}
    (failed : store.get key = .error fault) : store.entries = .error fault := by
  cases known : store.entries with
  | error other => simpa [get, known, Except.map] using failed
  | ok entries =>
      rw [get_of_readable known] at failed
      simp at failed

/-- Writing does not touch the other keys, and it does nothing where it fails. -/
theorem get_write_of_ne (store : Store) {key other : String} (value : String)
    (unlike : other ≠ key) :
    (store.write key value).get other = store.get other := by
  cases known : store.entries with
  | error fault => rw [write_of_unreadable known]
  | ok entries =>
      obtain ⟨changed, written, kept⟩ := entries_write known key value
      rw [get_of_readable written, get_of_readable known, kept, if_neg unlike]

/-- The store can be read. -/
def IsReadable (store : Store) : Prop :=
  ∃ entries, store.entries = .ok entries

theorem write_of_not_isReadable (unreadable : ¬ store.IsReadable)
    (key value : String) : store.write key value = store := by
  cases known : store.entries with
  | error fault => exact write_of_unreadable known key value
  | ok entries => exact absurd ⟨entries, known⟩ unreadable

namespace IsReadable

theorem get_eq (readable : store.IsReadable) (key : String) :
    store.get key = .ok (store.read? key) := by
  obtain ⟨entries, known⟩ := readable
  simp only [read?, get_of_readable known]

theorem write (readable : store.IsReadable) (key value : String) :
    (store.write key value).IsReadable := by
  obtain ⟨entries, known⟩ := readable
  obtain ⟨changed, written, _⟩ := entries_write known key value
  exact ⟨changed, written⟩

theorem read?_write (readable : store.IsReadable) (key value other : String) :
    (store.write key value).read? other =
      if other = key then some value else store.read? other := by
  obtain ⟨entries, known⟩ := readable
  obtain ⟨changed, written, kept⟩ := entries_write known key value
  simp only [read?, get_of_readable known, get_of_readable written, kept]

end IsReadable

end Store

/-!
## Stores on a disk answer like stores in memory

Accesses to a store on a disk are compared with the same accesses to a store in
memory.  Both have the same text for every key at any time, although the file is
read and written as a whole at each access, in an order that nobody chose.  A
file that holds something else is never written, for it is read first.
-/

open Files

/-- What can be done with a store. -/
inductive Access where
  | get (key : String)
  | set (key value : String) (order : EntryOrder)
  /-- Another store is made for the same file. -/
  | reopen

/-- What comes of an access. -/
inductive Answer where
  | found (value : Option String)
  | stored
  | reopened
  | failed
deriving Repr, DecidableEq

/-- The answers to some accesses, and the state after them. -/
def Access.run {State : Type} (answer : State → Access → Answer × State)
    (state : State) : List Access → List Answer × State
  | [] => ([], state)
  | access :: accesses =>
      let (first, next) := answer state access
      let (others, last) := run answer next accesses
      (first :: others, last)

/-- A store answers. -/
def Store.answer (store : Store) : Access → Answer × Store
  | .get key =>
      match store.get key with
      | .ok value => (.found value, store)
      | .error _ => (.failed, store)
  | .set key value _ =>
      match store.set key value with
      | .ok changed => (.stored, changed)
      | .error _ => (.failed, store)
  | .reopen => (.reopened, store)

/-- A store on the disk on which its file lies. -/
structure StoreOnDisk where
  store : FileStore
  disk : Disk

/-- A store on a disk answers. -/
def StoreOnDisk.answer (onDisk : StoreOnDisk) :
    Access → Answer × StoreOnDisk
  | .get key =>
      match onDisk.store.get onDisk.disk key with
      | .ok value => (.found value, onDisk)
      | .error _ => (.failed, onDisk)
  | .set key value order =>
      match onDisk.store.set onDisk.disk key value order with
      | .ok disk => (.stored, { onDisk with disk })
      | .error _ => (.failed, onDisk)
  | .reopen => (.reopened, { onDisk with store := ⟨onDisk.store.path⟩ })

/-- What a store says that fails. -/
def Access.refused : Access → Answer
  | .reopen => .reopened
  | _ => .failed

namespace Entries

/-- With distinct keys the order of the entries does not matter. -/
theorem lookup_eq_some_iff_mem {entries : Entries}
    (distinct : entries.AreDistinct) (key value : String) :
    entries.lookup key = some value ↔ (key, value) ∈ entries := by
  induction entries with
  | nil => simp
  | cons entry entries induction =>
      obtain ⟨name, text⟩ := entry
      obtain ⟨absent, later⟩ := List.nodup_cons.mp distinct
      by_cases here : key = name
      · subst here
        have unlisted : (key, value) ∉ entries :=
          fun member => absent (List.mem_map.mpr ⟨_, member, rfl⟩)
        simp [unlisted, eq_comm]
      · have unlike : (key == name) = false := beq_false_of_ne here
        rw [List.lookup_cons, unlike, List.mem_cons, induction later]
        simp [here]

theorem areDistinct_perm {first second : Entries} (distinct : first.AreDistinct)
    (perm : second.Perm first) : second.AreDistinct :=
  (perm.map Prod.fst).nodup_iff.mpr distinct

theorem lookup_perm {first second : Entries} (distinct : first.AreDistinct)
    (perm : second.Perm first) (key : String) :
    second.lookup key = first.lookup key := by
  apply Option.ext
  intro value
  rw [lookup_eq_some_iff_mem distinct,
    lookup_eq_some_iff_mem (areDistinct_perm distinct perm), perm.mem_iff]

end Entries

namespace FileStore

/-- The file is missing or blank, or it holds a record of these texts. -/
inductive Holds (store : FileStore) (disk : Disk) :
    List (String × String) → Prop where
  | missing : disk.hasPath store.path = false → Holds store disk []
  | blank {content : String} : disk.readText store.path = .ok content →
      Text.isBlankText content.toList = true → Holds store disk []
  | record {content : String} {texts : List (String × String)} :
      disk.readText store.path = .ok content →
      Json.read? content = some (Json.ofTexts texts) →
      Holds store disk texts

/-- The file can be written. -/
def IsSavable (store : FileStore) (disk : Disk) : Prop :=
  ∃ content later, store.save disk content = .ok later

variable {store : FileStore} {disk : Disk}

theorem content?_of_readText {content : String}
    (read : disk.readText store.path = .ok content) :
    store.content? disk = .ok (some content) := by
  rw [content?, if_pos (Disk.hasPath_of_readText read), read]
  rfl

section Content

variable {content : Option String} (known : store.content? disk = .ok content)
include known

theorem entries_eq_ok {entries : Entries}
    (read : (Store.file content).entries = .ok entries) :
    store.entries disk = .ok entries := by
  simp only [FileStore.entries, known, read]
  rfl

theorem entries_eq_error {fault : StoreFault}
    (read : (Store.file content).entries = .error fault) :
    store.entries disk = .error (.store fault) := by
  simp only [FileStore.entries, known, read]
  rfl

end Content

theorem entries_of_readText {content : String} {entries : Entries}
    (read : disk.readText store.path = .ok content)
    (parsed : Entries.ofContent? content = some entries) :
    store.entries disk = .ok entries := by
  apply entries_eq_ok (content?_of_readText read)
  simp only [Store.entries, parsed]

theorem entries_of_holds {texts : List (String × String)}
    (holds : store.Holds disk texts) :
    store.entries disk = .ok (Entries.putAll texts []) := by
  cases holds with
  | missing absent =>
      have nothing : store.content? disk = .ok none := by
        rw [content?, absent]
        rfl
      exact entries_eq_ok nothing rfl
  | blank read blank =>
      exact entries_of_readText read
        (Entries.ofContent?_eq_some_iff.mpr (.inl ⟨blank, rfl⟩))
  | record read spelled =>
      exact entries_of_readText read
        (Entries.ofContent?_eq_some_iff.mpr (.inr ⟨_, spelled, rfl⟩))

/-- A file that can be read as a store is one of the three kinds. -/
theorem holds_of_entries {entries : Entries}
    (known : store.entries disk = .ok entries) :
    ∃ texts, store.Holds disk texts := by
  cases there : disk.hasPath store.path with
  | false => exact ⟨[], .missing there⟩
  | true =>
      cases read : disk.readText store.path with
      | error fault =>
          simp [FileStore.entries, content?, there, read, Except.map] at known
      | ok content =>
          cases parsed : Entries.ofContent? content with
          | none =>
              have malformed : (Store.file (some content)).entries =
                  .error .malformed := by
                simp only [Store.entries, parsed]
              have failed := entries_eq_error (content?_of_readText read) malformed
              rw [known] at failed
              simp at failed
          | some entries =>
              rcases Entries.ofContent?_eq_some_iff.mp parsed with
                ⟨blank, _⟩ | ⟨texts, spelled, _⟩
              · exact ⟨[], .blank read blank⟩
              · exact ⟨texts, .record read spelled⟩

/-- What is saved is there, and the file can be saved again. -/
theorem exists_save (savable : store.IsSavable disk) (content : String) :
    ∃ later, store.save disk content = .ok later ∧
      later.readText store.path = .ok content ∧ store.IsSavable later := by
  obtain ⟨old, reached, saved⟩ := savable
  unfold IsSavable save at *
  cases above : (Path.parent? store.path).filter
      fun parent => !parent.isEmpty with
  | none =>
      simp only [above] at saved ⊢
      obtain ⟨later, written, _, again, read⟩ :=
        Disk.exists_writeText (Disk.isWritable_of_write saved) content
      obtain ⟨last, rewritten, _⟩ := Disk.exists_writeText again content
      exact ⟨later, written, read, content, last, rewritten⟩
  | some parent =>
      simp only [above] at saved ⊢
      cases made : disk.ensureDirectories parent with
      | error fault => simp [made] at saved
      | ok middle =>
          simp only [made] at saved ⊢
          obtain ⟨later, written, extension, again, read⟩ :=
            Disk.exists_writeText (Disk.isWritable_of_write saved) content
          obtain ⟨last, rewritten, _⟩ := Disk.exists_writeText again content
          have named : parent ≠ "" := by
            rintro rfl
            simp [Option.filter_eq_some_iff] at above
          -- The directory above is there already when the file is saved again.
          have there := extension.hasDirectory
            (Disk.hasDirectory_of_ensureDirectories named made)
          refine ⟨later, written, read, content, last, ?_⟩
          rw [Disk.ensureDirectories_of_hasDirectory there]
          exact rewritten

theorem exists_set (savable : store.IsSavable disk) {entries : Entries}
    (known : store.entries disk = .ok entries) (distinct : entries.AreDistinct)
    (key value : String) (order : EntryOrder) :
    ∃ later changed, store.set disk key value order = .ok later ∧
      store.IsSavable later ∧ store.entries later = .ok changed ∧
      changed.AreDistinct ∧
      ∀ other, changed.lookup other =
        if other = key then some value else entries.lookup other := by
  have kept := Entries.areDistinct_put key value distinct
  have perm := order.perm (entries.put key value)
  have arranged := Entries.areDistinct_perm kept perm
  obtain ⟨later, saved, read, again⟩ := exists_save savable
    (Entries.content (order.arrange (entries.put key value)))
  refine ⟨later, order.arrange (entries.put key value), ?_, again, ?_,
    arranged, ?_⟩
  · simp only [set, known, saved]
    rfl
  · exact entries_of_readText read (Entries.ofContent?_content arranged)
  · intro other
    rw [Entries.lookup_perm kept perm, Entries.lookup_put]

end FileStore

namespace StoreOnDisk

/-- The file can be written, and it has the same text for every key. -/
structure Mirrors (onDisk : StoreOnDisk) (entries : Entries) : Prop where
  savable : onDisk.store.IsSavable onDisk.disk
  agrees : ∃ known, onDisk.store.entries onDisk.disk = .ok known ∧
    known.AreDistinct ∧ ∀ key, known.lookup key = entries.lookup key

variable {onDisk : StoreOnDisk} {entries : Entries}

/-- Both stores answer alike, and go on having the same texts. -/
theorem Mirrors.answer (mirrors : onDisk.Mirrors entries) (access : Access) :
    ∃ changed,
      (Store.memory entries).answer access =
        ((onDisk.answer access).1, .memory changed) ∧
      (onDisk.answer access).2.Mirrors changed := by
  obtain ⟨savable, known, readable, distinct, same⟩ := mirrors
  cases access with
  | get key =>
      have found : onDisk.store.get onDisk.disk key =
          .ok (entries.lookup key) := by
        simp only [FileStore.get, readable, Except.map, same]
      refine ⟨entries, ?_, ?_⟩
      · simp only [StoreOnDisk.answer, found]
        rfl
      · simp only [StoreOnDisk.answer, found]
        exact ⟨savable, known, readable, distinct, same⟩
  | set key value order =>
      obtain ⟨later, changed, stored, again, read, still, texts⟩ :=
        FileStore.exists_set savable readable distinct key value order
      refine ⟨entries.put key value, ?_, ?_⟩
      · simp only [StoreOnDisk.answer, stored]
        rfl
      · simp only [StoreOnDisk.answer, stored]
        refine ⟨again, changed, read, still, fun other => ?_⟩
        rw [texts, Entries.lookup_put, same]
  | reopen => exact ⟨entries, rfl, savable, known, readable, distinct, same⟩

theorem Mirrors.run (mirrors : onDisk.Mirrors entries)
    (accesses : List Access) :
    (Access.run StoreOnDisk.answer onDisk accesses).1 =
      (Access.run Store.answer (.memory entries) accesses).1 := by
  induction accesses generalizing onDisk entries with
  | nil => rfl
  | cons access accesses induction =>
      obtain ⟨changed, answered, mirrors⟩ := mirrors.answer access
      simp only [Access.run, answered]
      rw [induction mirrors]

/-- What cannot be read is refused and left alone. -/
theorem answer_of_unreadable {fault : AccessFault}
    (unreadable : onDisk.store.entries onDisk.disk = .error fault)
    (access : Access) : onDisk.answer access = (access.refused, onDisk) := by
  cases access with
  | get key => simp [answer, FileStore.get, unreadable, Except.map, Access.refused]
  | set key value order =>
      simp [answer, FileStore.set, unreadable, Access.refused]
  | reopen => rfl

theorem run_of_unreadable {fault : AccessFault}
    (unreadable : onDisk.store.entries onDisk.disk = .error fault)
    (accesses : List Access) :
    Access.run answer onDisk accesses =
      (accesses.map Access.refused, onDisk) := by
  induction accesses with
  | nil => rfl
  | cons access accesses induction =>
      simp only [Access.run, answer_of_unreadable unreadable access, induction]
      rfl

/-- A store whose file is missing, blank or a record of texts answers any accesses
as a store in memory with the same texts does, if the file can be written.  A
store whose file holds anything else fails at every access and leaves the disk as
it is. -/
theorem answers_of_run (store : FileStore) (disk : Disk)
    (accesses : List Access) :
    let ran := Access.run answer ⟨store, disk⟩ accesses
    (∀ texts, store.Holds disk texts → store.IsSavable disk →
      ran.1 = (Access.run Store.answer
        (.memory (Entries.putAll texts [])) accesses).1) ∧
    ((∀ texts, ¬ store.Holds disk texts) →
      ran.1 = accesses.map Access.refused ∧ ran.2.disk = disk) := by
  intro ran
  constructor
  · intro texts holds savable
    have mirrors : StoreOnDisk.Mirrors ⟨store, disk⟩ (Entries.putAll texts []) :=
      { savable
        agrees := ⟨_, FileStore.entries_of_holds holds,
          Entries.areDistinct_putAll texts List.nodup_nil, fun _ => rfl⟩ }
    exact mirrors.run accesses
  · intro other
    cases known : store.entries disk with
    | ok entries =>
        obtain ⟨texts, holds⟩ := FileStore.holds_of_entries known
        exact absurd holds (other texts)
    | error fault =>
        have unreadable : (mk store disk).store.entries disk = .error fault :=
          known
        have refused := run_of_unreadable unreadable accesses
        exact ⟨congrArg Prod.fst refused,
          congrArg (fun result => result.2.disk) refused⟩

/-- A store in a directory that is missing at first, and one whose file was cut
off. -/
theorem answers_of_run_nested :
    let disk : Disk :=
      { files := [(["broken.json"], "\x7boops".toUTF8)]
        directories := []
        current := [] }
    let accesses : List Access :=
      [.get "theme", .set "theme" "dark" .first, .set "editor" "zed" .last,
        .reopen, .get "theme"]
    let store : FileStore := ⟨"nested/settings.json"⟩
    let broken : FileStore := ⟨"broken.json"⟩
    store.Holds disk [] ∧ store.IsSavable disk ∧
      (Access.run answer ⟨store, disk⟩ accesses).1 =
        [.found none, .stored, .stored, .reopened, .found (some "dark")] ∧
      (∀ texts, ¬ broken.Holds disk texts) ∧
      (Access.run answer ⟨broken, disk⟩ accesses).1 =
        [.failed, .failed, .failed, .reopened, .failed] := by
  intro disk accesses store broken
  have holds : store.Holds disk [] := .missing (by decide +kernel)
  have savable : store.IsSavable disk :=
    ⟨"", _, eq_ok_getD disk (by decide +kernel)⟩
  have other : ∀ texts, ¬ broken.Holds disk texts := by
    intro texts claimed
    have failed : (broken.entries disk).isOk = false := by decide +kernel
    rw [FileStore.entries_of_holds claimed] at failed
    simp [Except.isOk, Except.toBool] at failed
  obtain ⟨same, _⟩ := answers_of_run store disk accesses
  obtain ⟨_, refused⟩ := answers_of_run broken disk accesses
  exact ⟨holds, savable, (same [] holds savable).trans (by decide +kernel), other,
    (refused other).1⟩

end StoreOnDisk

end Overlay

end SourceMark
