import BoardWarden.Proofs.Emulator.Carrying

set_option autoImplicit false

namespace BoardWarden.Emulator

/-- What a line has to do with the log: what it says without it, what it enters, and what it reports of
the AP. -/
structure Share where
  said : List String
  notes : List Note
  told : List ChipsetEvent

def Share.output (share : Share) (entries : List Entry) : List String :=
  share.said ++ (share.told.map (fun event => "chipset " ++ event.text) ++
    (Journal.newest 64 entries).map Entry.text)

def Ledger.add (l : Ledger) (share : Share) : Ledger :=
  { l with
    journal := l.journal.enterAll share.notes
    milestones := l.milestones ++ share.told }

namespace Session

variable (s : Session)

def log : Ledger := ⟨s.controller.journal, s.world.milestones, s.nextLogId⟩

def withLog (l : Ledger) : Session :=
  { s with
    controller := s.controller.withPlant ⟨{ s.world with milestones := l.milestones }, l.journal⟩
    nextLogId := l.nextLogId }

def Leads (line : String) (share : Share) (done : Session) : Prop :=
  s.perform (Command.ofLine line) = .ok (share.said, done) ∧
    ∀ l : Ledger, (s.withLog l).perform (Command.ofLine line) =
      .ok (share.said, done.withLog (l.add share))

end Session

inductive Carried : Session → List String → List Share → Session → Prop where
  | none (s : Session) : Carried s [] [] s
  | line {s done last : Session} {line : String} {rest : List String} {share : Share}
      {shares : List Share} (leads : s.Leads line share done)
      (others : Carried done.drainLog.2 rest shares last) :
      Carried s (line :: rest) (share :: shares) last

def newEntries : Nat → List Note → List Share → List (List Entry)
  | _, _, [] => []
  | first, pending, share :: rest =>
    Journal.numbered first (pending ++ share.notes) ::
      newEntries (first + (pending ++ share.notes).length) [] rest

def Lives (s : Session) : Prop := ∃ ticks, Life ticks s

theorem Lives.drained {s : Session} (lives : Lives s) : Lives s.drainLog.2 :=
  lives.imp fun _ life => life.drained

def startNotes : List Note := Session.fresh.controller.journal.notes

namespace Session

variable {s done : Session} {line : String} {share : Share}

theorem withLog_log (s : Session) : s.withLog s.log = s := rfl

theorem overLog_withLog (s : Session) (l : Ledger) :
    s.overLog l = s.withLog { l with milestones := l.milestones ++ s.world.milestones } := rfl

theorem leads_total (lives : Lives s) (silent : s.world.milestones = []) (line : String) :
    ∃ share done, s.Leads line share done ∧ Lives done := by
  obtain ⟨ticks, life⟩ := lives
  obtain ⟨said, later, own, notes, performed, life', carried⟩ :=
    life.performs (Command.ofLine line)
  refine ⟨⟨said, notes, later.world.milestones⟩, later, ⟨performed, fun l => ?_⟩, _, life'⟩
  have told := carried l
  rwa [ledger_enters, overLog_withLog, overLog_withLog, silent, List.append_nil] at told

theorem leads_unique {share' : Share} {done' : Session} (leads : s.Leads line share done)
    (leads' : s.Leads line share' done') : share = share' ∧ done = done' := by
  obtain ⟨here, there⟩ := leads
  obtain ⟨here', there'⟩ := leads'
  rw [here] at here'
  obtain ⟨said, rfl⟩ := Prod.mk.inj (Except.ok.inj here')
  have same : ∀ l : Ledger,
      (done.withLog (l.add share)).log = (done.withLog (l.add share')).log := fun l => by
    have answers := (there l).symm.trans (there' l)
    rw [(Prod.mk.inj (Except.ok.inj answers)).2]
  have notes : share.notes = share'.notes := Journal.enterAll_injective fun j =>
    congrArg Ledger.journal (same ⟨j, [], 0⟩)
  have told : share.told = share'.told :=
    congrArg Ledger.milestones (same ⟨Journal.fresh, [], 0⟩)
  refine ⟨?_, rfl⟩
  cases share
  cases share'
  simp_all only

theorem leads_log (s : Session) : s.Leads "log" ⟨[], [], []⟩ s := by
  have command : Command.ofLine "log" = .log := by decide +kernel
  refine ⟨by rw [command]; rfl, fun l => ?_⟩
  rw [command]
  simp only [Ledger.add, List.append_nil]
  rfl

theorem Leads.log (leads : s.Leads line share done) : done.log = s.log.add share := by
  have answer := leads.2 s.log
  rw [withLog_log, leads.1] at answer
  have same := (Prod.mk.inj (Except.ok.inj answer)).2
  rw [same]
  rfl

theorem drainLog_eq (s : Session) (entries : List Entry) (held : s.controller.journal.entries.filter
      (fun entry => decide (s.nextLogId ≤ entry.id)) = entries) : s.drainLog =
    (s.world.milestones.map (fun event => "chipset " ++ event.text) ++ entries.map Entry.text,
      s.withLog ⟨s.controller.journal, [], (entries.getLast?.map (·.id + 1)).getD s.nextLogId⟩) := by
  simp only [drainLog, held]
  cases entries.getLast? <;> rfl

/-- After the milestones a session shows what is new in its journal, and then it has shown it all. -/
theorem drainLog_new {old new : List Note} {told : List ChipsetEvent}
    (log : s.log = ⟨Journal.written 64 (old ++ new), told, old.length⟩) : s.drainLog =
      (told.map (fun event => "chipset " ++ event.text) ++
          (Journal.newest 64 (Journal.numbered old.length new)).map Entry.text,
        s.withLog ⟨Journal.written 64 (old ++ new), [], (old ++ new).length⟩) := by
  obtain ⟨journal, milestones, cursor⟩ := Ledger.mk.inj log
  have held : s.controller.journal.entries.filter (fun entry => decide (s.nextLogId ≤ entry.id)) =
      Journal.newest 64 (Journal.numbered old.length new) := by
    rw [journal, cursor]
    exact Journal.filter_newest 64 old new
  rw [s.drainLog_eq _ held, milestones, journal, cursor,
    Journal.next_newest (by decide) old.length new, List.length_append]

/-- A line is carried out, with its share and what is new in the journal for an output, and the log is
shown up to there. -/
theorem Leads.handle (leads : s.Leads line share done) {old pending : List Note}
    (log : s.log = ⟨Journal.written 64 (old ++ pending), [], old.length⟩)
    (few : (old ++ pending ++ share.notes).length < Journal.idLimit) :
    s.handle line = .ok
        (share.output (Journal.numbered old.length (pending ++ share.notes)), done.drainLog.2) ∧
      done.drainLog.2.log = ⟨Journal.written 64 (old ++ (pending ++ share.notes)), [],
        (old ++ (pending ++ share.notes)).length⟩ := by
  have added : done.log =
      ⟨Journal.written 64 (old ++ (pending ++ share.notes)), share.told, old.length⟩ := by
    rw [leads.log, log]
    simp only [Ledger.add, Journal.enterAll_written _ _ _ few, List.append_assoc, List.nil_append]
  have drained := drainLog_new added
  constructor
  · simp only [Session.handle, leads.1]
    change Except.ok (share.said ++ done.drainLog.1, done.drainLog.2) = _
    rw [drained]
    rfl
  · rw [drained]
    rfl

theorem fresh_silent : Session.fresh.world.milestones = [] := by decide +kernel

theorem fresh_log : Session.fresh.log = ⟨Journal.fresh.enterAll startNotes, [], 0⟩ := by
  have journal : Session.fresh.controller.journal = Journal.fresh.enterAll startNotes := by
    decide +kernel
  rw [Session.log, journal, fresh_silent]
  rfl

end Session

namespace Carried

variable {s last : Session} {lines : List String} {shares : List Share}

theorem total (s : Session) (lives : Lives s) (silent : s.world.milestones = [])
    (lines : List String) : ∃ shares last, Carried s lines shares last := by
  induction lines generalizing s with
  | nil => exact ⟨[], s, .none s⟩
  | cons line rest ih =>
    obtain ⟨share, done, leads, lives'⟩ := Session.leads_total lives silent line
    obtain ⟨shares, last, others⟩ := ih done.drainLog.2 lives'.drained rfl
    exact ⟨share :: shares, last, .line leads others⟩

theorem unique {shares' : List Share} {last' : Session} (carried : Carried s lines shares last)
    (carried' : Carried s lines shares' last') : shares' = shares ∧ last' = last := by
  induction carried generalizing shares' with
  | none =>
    cases carried'
    exact ⟨rfl, rfl⟩
  | line leads _ ih =>
    cases carried' with
    | line leads' others' =>
      obtain ⟨rfl, rfl⟩ := Session.leads_unique leads leads'
      obtain ⟨rfl, rfl⟩ := ih others'
      exact ⟨rfl, rfl⟩

theorem shows (carried : Carried s lines shares last) {old pending : List Note}
    (log : s.log = ⟨Journal.written 64 (old ++ pending), [], old.length⟩)
    (few : (old ++ pending ++ shares.flatMap Share.notes).length < Journal.idLimit) :
    s.handleAll lines =
        .ok (List.zipWith Share.output shares (newEntries old.length pending shares), last) ∧
      last.controller.journal = Journal.written 64 (old ++ pending ++ shares.flatMap Share.notes) ∧
      last.world.milestones = [] := by
  induction carried generalizing old pending with
  | none s =>
    simp only [List.flatMap_nil, List.append_nil]
    exact ⟨rfl, congrArg Ledger.journal log, congrArg Ledger.milestones log⟩
  | @line s done last line rest share shares leads others ih =>
    rw [List.flatMap_cons] at few ⊢
    obtain ⟨handled, later⟩ := leads.handle log (by
      simp only [List.length_append] at few ⊢
      omega)
    have all : old ++ (pending ++ share.notes) ++ [] ++ shares.flatMap Share.notes =
        old ++ pending ++ (share.notes ++ shares.flatMap Share.notes) := by
      simp only [List.append_assoc, List.nil_append]
    obtain ⟨outputs, journal, silent⟩ := ih (by rw [List.append_nil]; exact later) (all ▸ few)
    rw [all] at journal
    refine ⟨?_, journal, silent⟩
    simp only [Session.handleAll, handled]
    change (done.drainLog.2.handleAll rest >>= fun others => _) = _
    rw [outputs, List.length_append]
    rfl

theorem shows_begun (carried : Carried s lines shares last) {notes : List Note}
    (log : s.log = ⟨Journal.fresh.enterAll notes, [], 0⟩)
    (few : (notes ++ shares.flatMap Share.notes).length < Journal.idLimit) :
    s.handleAll lines = .ok (List.zipWith Share.output shares (newEntries 0 notes shares), last) ∧
      last.controller.journal = Journal.fresh.enterAll (notes ++ shares.flatMap Share.notes) ∧
      last.world.milestones = [] := by
  have enters : ∀ notes : List Note, notes.length < Journal.idLimit →
      Journal.fresh.enterAll notes = Journal.written 64 notes := fun notes few =>
    Journal.enterAll_written 64 [] notes few
  have start : s.log = ⟨Journal.written 64 ([] ++ notes), [], ([] : List Note).length⟩ := by
    rw [log, enters notes (by simp only [List.length_append] at few; omega), List.nil_append,
      List.length_nil]
  have shows := carried.shows start (by rwa [List.nil_append])
  rwa [List.nil_append, List.length_nil, ← enters _ few] at shows

theorem some_share (carried : Carried s lines shares last) (some_line : lines ≠ []) : shares ≠ [] := by
  cases carried with
  | none => exact absurd rfl some_line
  | line => exact List.cons_ne_nil _ _

theorem of_cons {line : String} (carried : Carried s (line :: lines) shares last) :
    ∃ share others done, shares = share :: others ∧ s.Leads line share done ∧
      Carried done.drainLog.2 lines others last := by
  cases carried with
  | line leads others => exact ⟨_, _, _, rfl, leads, others⟩

end Carried

section NewEntries

variable (first : Nat) (pending : List Note) (shares : List Share)

theorem newEntries_flatten (some_line : shares ≠ []) : (newEntries first pending shares).flatten =
    Journal.numbered first (pending ++ shares.flatMap Share.notes) := by
  induction shares generalizing first pending with
  | nil => exact absurd rfl some_line
  | cons share rest ih =>
    simp only [newEntries, List.flatten_cons, List.flatMap_cons]
    by_cases more : rest = []
    · simp [more, newEntries]
    · rw [ih _ _ more, List.nil_append, ← Journal.numbered_append, List.append_assoc]

theorem newEntries_rises : (newEntries first pending shares).flatten.Pairwise (·.id < ·.id) := by
  by_cases some_line : shares = []
  · rw [some_line]
    exact .nil
  · rw [newEntries_flatten first pending shares some_line]
    exact Journal.numbered_rises first _

end NewEntries

/-- Of entries in the order of their numbers a journal holds those that few enough came after. -/
theorem mem_newest_iff {before after : List Entry} {entry : Entry}
    (rises : (before ++ entry :: after).Pairwise (·.id < ·.id)) :
    entry ∈ Journal.newest 64 (before ++ entry :: after) ↔ after.length < 64 := by
  have count : (before ++ entry :: after).length = before.length + (after.length + 1) := by simp
  constructor
  · intro held
    by_contra many
    have dropped : (before ++ entry :: after).length - 64 = before.length + (after.length - 63) := by omega
    rw [Journal.newest, dropped, List.drop_length_add_append] at held
    obtain ⟨more, rest⟩ : ∃ more, after.length - 63 = more + 1 := ⟨after.length - 64, by omega⟩
    rw [rest, List.drop_succ_cons] at held
    have later := (List.pairwise_cons.1 (List.pairwise_append.1 rises).2.1).1 entry
      (List.mem_of_mem_drop held)
    omega
  · intro few
    rw [Journal.newest, List.drop_append_of_le_length (by omega)]
    exact List.mem_append_right _ (List.mem_cons_self ..)

/-- The log shows each entry once and in order. Whatever lines are typed, they determine what each says,
enters and reports, whatever was in the log before it; and as long as the numbers of the entries do not
wrap, the output of each line is what it says, then the milestones since the line before it in their
order, then the entries since the line before it, as far as no 64 later ones of them have displaced them.
So the numbers of the entries that are shown rise from output to output. -/
theorem log_shows_once (lines : List String) : ∃ shares last,
    (∀ shares' last', Carried Session.fresh lines shares' last' ↔ shares' = shares ∧ last' = last) ∧
      Session.fresh.log = ⟨Journal.fresh.enterAll startNotes, [], 0⟩ ∧
      ((startNotes ++ shares.flatMap Share.notes).length < Journal.idLimit →
        Session.fresh.handleAll lines =
            .ok (List.zipWith Share.output shares (newEntries 0 startNotes shares), last) ∧
          last.controller.journal =
            Journal.fresh.enterAll (startNotes ++ shares.flatMap Share.notes) ∧
          last.world.milestones = []) ∧
      (lines ≠ [] → (newEntries 0 startNotes shares).flatten =
        Journal.numbered 0 (startNotes ++ shares.flatMap Share.notes)) ∧
      ((newEntries 0 startNotes shares).flatMap (Journal.newest 64)).Pairwise (·.id < ·.id) ∧
      ∀ (turn : Nat) (own : List Entry), (newEntries 0 startNotes shares)[turn]? = some own →
        (∀ (other : Nat) (entries : List Entry),
          (newEntries 0 startNotes shares)[other]? = some entries →
            ∀ entry ∈ own, entry ∈ Journal.newest 64 entries → other = turn) ∧
        ∀ before entry after, own = before ++ entry :: after →
          (entry ∈ Journal.newest 64 own ↔ after.length < 64) := by
  obtain ⟨shares, last, carried⟩ :=
    Carried.total _ ⟨[], .boot⟩ Session.fresh_silent lines
  have rises := newEntries_rises 0 startNotes shares
  obtain ⟨each, across⟩ := List.pairwise_flatten.1 rises
  refine ⟨shares, last, fun shares' last' => ⟨fun carried' => carried.unique carried', ?_⟩,
    Session.fresh_log, fun few => ?_, fun some_line => ?_, ?_, fun turn own listed => ⟨?_, ?_⟩⟩
  · rintro ⟨rfl, rfl⟩
    exact carried
  · exact carried.shows_begun Session.fresh_log few
  · exact newEntries_flatten 0 startNotes shares (carried.some_share some_line)
  · refine List.pairwise_flatMap.2 ⟨fun own listed => ?_, across.imp fun rise => ?_⟩
    · exact (each own listed).sublist (List.drop_sublist _ _)
    · exact fun entry old entry' new => rise entry (List.mem_of_mem_drop old) entry'
        (List.mem_of_mem_drop new)
  · -- What is shown after a line was new then, and the numbers of what is new after two lines differ.
    intro other entries listed' entry recorded shown
    have held := List.mem_of_mem_drop shown
    obtain ⟨inside, rfl⟩ := List.getElem?_eq_some_iff.1 listed
    obtain ⟨inside', rfl⟩ := List.getElem?_eq_some_iff.1 listed'
    have apart := List.pairwise_iff_getElem.1 across
    rcases Nat.lt_trichotomy other turn with before | same | after
    · exact absurd (apart _ _ inside' inside before entry held entry recorded) (Nat.lt_irrefl _)
    · exact same
    · exact absurd (apart _ _ inside inside' after entry recorded entry held) (Nat.lt_irrefl _)
  · rintro before entry after rfl
    exact mem_newest_iff (each _ (List.mem_of_getElem? listed))

/-- The power button leads to twelve entries and three milestones. They are shown at once, after the entry
of the start, and the line after that has nothing left to show. -/
theorem power_shown_once : ∃ (share : Share) (last : Session),
    share.notes.length = 12 ∧ share.told.length = 3 ∧
      Session.fresh.handleAll ["power", "log"] =
        .ok ([share.output (Journal.numbered 0 (startNotes ++ share.notes)), []], last) := by
  obtain ⟨shares, last, carried, _, shows, _⟩ := log_shows_once ["power", "log"]
  obtain ⟨share, others, done, rfl, leads, rest⟩ := ((carried _ _).2 ⟨rfl, rfl⟩).of_cons
  obtain ⟨quiet, none, done', rfl, asked, rest⟩ := rest.of_cons
  obtain ⟨rfl, rfl⟩ := Session.leads_unique asked (Session.leads_log _)
  cases rest
  have counts : ((Session.fresh.withLog ⟨Journal.fresh, [], 0⟩).perform
      (Command.ofLine "power")).toOption.map (fun answer => (answer.2.log.journal.entries.length,
        answer.2.log.milestones.length)) = some (12, 3) := by decide +kernel
  rw [leads.2] at counts
  obtain ⟨entered, told⟩ := Prod.mk.inj (Option.some.inj counts)
  have notes : share.notes.length = 12 := by
    have length : min 64 (0 + share.notes.length) = 12 :=
      (Journal.enterAll_length share.notes Journal.fresh (Nat.zero_le _)).symm.trans entered
    omega
  have first : startNotes.length = 1 := by decide +kernel
  obtain ⟨outputs, _⟩ := shows (by
    simp only [List.flatMap_cons, List.flatMap_nil, List.length_append, List.length_nil, notes, first]
    decide)
  exact ⟨share, _, notes, told, outputs⟩

end BoardWarden.Emulator
