import DebugAdapter.Proofs.Control.Sessions
/-!
# The end of a session

An interpreter that has been disposed of, and one that has closed its stream, is heard to have
closed, if its channel, its reports and its news are attended to again and again: the channel comes
nearer to the command to stop or to the end of the stream, and the end comes nearer in each of the
queues that it goes through. A start that waits is served or fails. So every session ends, and ends
once.
-/

namespace DebugAdapter

namespace Debuggee

/-- Where the end of an interpreter stands among its reports. -/
def reportsAhead (d : Debuggee) : Nat := d.reports.findIdx Channel.Event.isClosed

/-- Where the end of an interpreter stands among its news. -/
def newsAhead (d : Debuggee) : Nat := d.news.findIdx Monitor.Event.isClosed

end Debuggee

namespace Control

namespace Moment

variable {m : Moment} {i : Nat} {d d' : Debuggee} (fares : m.Fares i d d')
include fares

theorem Fares.link :
    (∃ now move effects, m.happening = .activity now (.debuggee i (.link move)) ∧
        d.link.perform? now move = some (d'.link, effects)) ∨
      (∃ line complaints fate, m.happening = .interpreter i line complaints fate ∧
        d'.link = { d.link with line, complaints, fate }) ∨
      d.link.Fed d'.link ∧ ∀ now move, m.happening = .activity now (.debuggee i (.link move)) →
        d.link.perform? now move = none := by
  cases fares with
  | @performs now a d' happening performed =>
      obtain ⟨move, effects, rfl, moved⟩ | ⟨other, fed⟩ := Debuggee.link_perform performed
      · exact .inl ⟨now, move, effects, happening, moved⟩
      · refine .inr (.inr ⟨fed, fun now' move happening' => ?_⟩)
        cases happening.symm.trans happening'
        exact absurd rfl (other move)
  | outside happening => exact .inr (.inl ⟨_, _, _, happening, rfl⟩)
  | hears heard taken told =>
      obtain ⟨news, -, rfl⟩ := Debuggee.hear?_eq taken
      obtain ⟨now, -, -, happening, -⟩ := heard?_eq heard
      exact .inr (.inr ⟨told.link, by simp [happening]⟩)
  | told idle _ told =>
      exact .inr (.inr ⟨told.link, fun now move happening =>
        Option.map_eq_none_iff.mp (idle now _ happening)⟩)

/-- The channel of an interpreter that has been told to stop ends or comes nearer to that. -/
theorem Fares.leaves (leaving : d.link.Leaving) (live : d'.link.channel.ended = false) :
    d'.link.Leaving ∧ d'.link.stopAt ≤ d.link.stopAt ∧
      (∀ now, m.happening = .activity now (.debuggee i (.link .command)) →
        d'.link.stopAt < d.link.stopAt) := by
  obtain ⟨now, move, effects, happening, moved⟩ | ⟨line, complaints, fate, happening, same⟩ |
    ⟨fed, idle⟩ := fares.link
  · obtain ⟨leaving', nearer, helps⟩ := Channel.Link.nears_stop leaving moved live
    refine ⟨leaving', nearer, fun now' happening' => helps ?_⟩
    cases happening.symm.trans happening'
    rfl
  · rw [same]
    exact ⟨leaving, Nat.le_refl _, by simp [happening]⟩
  · rw [fed.channel] at live
    have waits := leaving.resolve_left (by simp [live])
    refine ⟨fed.leaving leaving, (fed.stopAt waits).le, fun now happening => ?_⟩
    exact absurd (idle now .command happening) (Channel.Link.command_possible live waits)

/-- An interpreter that has closed its stream closes its channel or comes nearer to that. -/
theorem Fares.drains (regular : d.link.Regular) (gone : d.link.line.inbound.writerGone = true)
    (stays : ∀ line complaints fate, m.happening = .interpreter i line complaints fate →
      line.inbound = d.link.line.inbound) (open_ : d'.link.channel.closed = false) :
    d'.link.line.inbound.writerGone = true ∧ d'.link.unread ≤ d.link.unread ∧
      (∀ now, m.happening = .activity now (.debuggee i (.link .read)) →
        d'.link.unread < d.link.unread) := by
  obtain ⟨now, move, effects, happening, moved⟩ | ⟨line, complaints, fate, happening, same⟩ |
    ⟨fed, idle⟩ := fares.link
  · obtain ⟨gone', nearer, helps⟩ := Channel.Link.nears_end regular gone moved open_
    refine ⟨gone', nearer, fun now' happening' => helps ?_⟩
    cases happening.symm.trans happening'
    rfl
  · have inbound := stays line complaints fate happening
    rw [same]
    exact ⟨inbound ▸ gone, by rw [Channel.Link.unread, inbound, Channel.Link.unread],
      by simp [happening]⟩
  · rw [fed.line]
    refine ⟨gone, by rw [Channel.Link.unread, fed.line, fed.intake, Channel.Link.unread],
      fun now happening => ?_⟩
    exact absurd (idle now .read happening)
      (Channel.Link.read_possible regular (fed.channel ▸ open_) gone)

/-- An end that has been reported becomes news or comes nearer to that. -/
theorem Fares.passes (waits : ∃ e ∈ d.reports, e.isClosed = true) :
    (∃ e ∈ d'.news, e.isClosed = true) ∨
      (∃ e ∈ d'.reports, e.isClosed = true) ∧ d'.reportsAhead ≤ d.reportsAhead ∧
        (∀ now, m.happening = .activity now (.debuggee i .forward) →
          d'.reportsAhead < d.reportsAhead) := by
  have stays (part : d.reports <+: d'.reports)
      (other : ∀ now, m.happening ≠ .activity now (.debuggee i .forward)) :
      (∃ e ∈ d'.reports, e.isClosed = true) ∧ d'.reportsAhead ≤ d.reportsAhead ∧
        (∀ now, m.happening = .activity now (.debuggee i .forward) →
          d'.reportsAhead < d.reportsAhead) :=
    ⟨exists_of_part part waits, (findIdx_of_part part waits).le,
      fun now happening => absurd happening (other now)⟩
  cases fares with
  | @performs now a d' happening performed =>
      by_cases forward : a = .forward
      · subst forward
        cases Debuggee.performs performed with
        | @forward e reports first =>
            cases closed : e.isClosed with
            | true =>
                cases e with
                | closed code => exact .inl ⟨.closed code, by simp [Monitor.eventOfChannel?], rfl⟩
                | _ => cases closed
            | false =>
                obtain ⟨x, member, closed'⟩ := waits
                rw [first] at member
                obtain rfl | later := List.mem_cons.mp member
                · cases closed.symm.trans closed'
                · have lower : reports.findIdx Channel.Event.isClosed < d.reportsAhead := by
                    rw [Debuggee.reportsAhead, first]
                    exact findIdx_cons_lt closed
                  exact .inr ⟨⟨x, later, closed'⟩, lower.le, fun _ _ => lower⟩
      · have none_ : d.forwarded a = [] := by cases a <;> first | rfl | exact absurd rfl forward
        have reports := Debuggee.reports_perform performed
        rw [none_, List.nil_append] at reports
        refine .inr (stays ⟨_, reports.symm⟩ fun now' happening' => ?_)
        cases happening.symm.trans happening'
        exact forward rfl
  | outside happening => exact .inr (stays (List.prefix_refl _) (by simp [happening]))
  | hears heard taken told =>
      obtain ⟨news, -, rfl⟩ := Debuggee.hear?_eq taken
      obtain ⟨now, -, -, happening, -⟩ := heard?_eq heard
      exact .inr (stays (by rw [told.reports]) (by simp [happening]))
  | told idle _ told =>
      refine .inr (stays (by rw [told.reports]) fun now happening => ?_)
      have none_ := idle now .forward happening
      obtain ⟨x, member, -⟩ := waits
      cases reports : d.reports with
      | nil => simp [reports] at member
      | cons => simp [Debuggee.perform?, reports] at none_

/-- An end that is news is heard or comes nearer to that. -/
theorem Fares.listens (found : m.before.debuggees[i]? = some d) (present : m.before.present = some i)
    (waits : ∃ e ∈ d.news, e.isClosed = true) :
    (∃ e, m.heard? = some (i, e) ∧ e.isClosed = true) ∨
      (∃ e ∈ d'.news, e.isClosed = true) ∧ d'.newsAhead ≤ d.newsAhead ∧
        (∀ now, m.happening = .activity now .hear → d'.newsAhead < d.newsAhead) := by
  have stays (part : d.news <+: d'.news) (other : ∀ now, m.happening ≠ .activity now .hear) :
      (∃ e ∈ d'.news, e.isClosed = true) ∧ d'.newsAhead ≤ d.newsAhead ∧
        (∀ now, m.happening = .activity now .hear → d'.newsAhead < d.newsAhead) :=
    ⟨exists_of_part part waits, (findIdx_of_part part waits).le,
      fun now happening => absurd happening (other now)⟩
  cases fares with
  | performs happening performed =>
      exact .inr (stays (Debuggee.news_perform performed) (by simp [happening]))
  | outside happening => exact .inr (stays (List.prefix_refl _) (by simp [happening]))
  | @hears e d₁ d' heard taken told =>
      obtain ⟨news, first, rfl⟩ := Debuggee.hear?_eq taken
      cases closed : e.isClosed with
      | true => exact .inl ⟨e, heard, closed⟩
      | false =>
          obtain ⟨x, member, closed'⟩ := waits
          rw [first] at member
          obtain rfl | later := List.mem_cons.mp member
          · cases closed.symm.trans closed'
          · have lower : d'.newsAhead < d.newsAhead := by
              rw [Debuggee.newsAhead, Debuggee.newsAhead, told.news, first]
              exact findIdx_cons_lt closed
            exact .inr ⟨⟨x, told.news ▸ later, closed'⟩, lower.le, fun _ _ => lower⟩
  | told _ unheard told =>
      refine .inr (stays (by rw [told.news]) fun now happening => ?_)
      obtain ⟨x, member, -⟩ := waits
      cases news : d.news with
      | nil => simp [news] at member
      | cons e news' =>
          have taken : d.hear? = some (e, { d with news := news' }) := by simp [Debuggee.hear?, news]
          exact unheard e (heard?_of happening present found taken)

end Moment

/-! ## Courses -/

section

variable {c : Control} {os : Nat → Occurrence} {i n k : Nat}

theorem momentAt_after (k : Nat) : (c.momentAt os k).after = c.during os (k + 1) := rfl

theorem notices_during (c : Control) (os : Nat → Occurrence) (later : n ≤ k) :
    (c.during os n).notices <+: (c.during os k).notices := by
  induction later with
  | refl => exact List.prefix_refl _
  | @step k later ih =>
      obtain ⟨new, noted, -⟩ := (c.momentAt os k).utters
      exact ih.trans ⟨new, noted.symm⟩

/-- How often the end of a session is noted from the `n`th moment up to the `k`th. -/
def endings (c : Control) (os : Nat → Occurrence) (n k : Nat) : Nat :=
  (noted (c.during os n) (c.during os k)).count .ended

theorem endings_succ (c : Control) (os : Nat → Occurrence) (later : n ≤ k) :
    c.endings os n (k + 1) = c.endings os n k + (c.momentAt os k).notices.count .ended := by
  obtain ⟨new, noted_, -⟩ := (c.momentAt os k).utters
  obtain ⟨before, same⟩ := c.notices_during os later
  have first : noted (c.during os n) (c.during os k) = before := noted_eq same.symm
  have both : noted (c.during os n) (c.during os (k + 1)) = before ++ new := by
    refine noted_eq ?_
    rw [← momentAt_after, noted_, ← List.append_assoc, same]
    rfl
  rw [endings, both, endings, first, List.count_append, Moment.notices_eq noted_]

/-- Whether no other start gets its turn between two moments. -/
def Unreplaced (c : Control) (os : Nat → Occurrence) (n k : Nat) : Prop :=
  ∀ j, n < j → j < k → (c.momentAt os j).launches = false

/-- The interpreter of a start that gets its turn then. -/
def newcomer (c : Control) (os : Nat → Occurrence) (n : Nat) : Nat := (c.during os n).debuggees.length

theorem standing_facing {c : Control} {ended : Nat} (standing : Standing c i ended)
    (o : Occurrence) : Standing (c.facing o) i ended := by
  cases standing with
  | failed vacant => exact .failed ⟨vacant.present, vacant.starting⟩
  | awaited present starting balances => exact .awaited present starting balances
  | installed installed balances =>
      exact .installed ⟨installed.present, installed.starting⟩ balances

theorem standing_during (launches : (c.momentAt os n).launches = true) (later : n < k)
    (unreplaced : c.Unreplaced os n k) :
    Standing (c.during os k) (c.newcomer os n) (c.endings os n k) := by
  induction later with
  | refl =>
      have none_ : c.endings os n n = 0 := by simp [endings, noted]
      rw [c.endings_succ os (Nat.le_refl n), none_, Nat.zero_add]
      exact Moment.standing_launch launches
  | @step k later ih =>
      have standing := standing_facing (ih fun j after before => unreplaced j after (by omega)) (os k)
      rw [c.endings_succ os (Nat.le_of_succ_le later)]
      exact Moment.standing_next (m := c.momentAt os k) standing
        (unreplaced k later (Nat.lt_succ_self k))

/-- What never goes up for one interpreter, and drops again and again, leads on. -/
theorem leads_fares {f : Debuggee → Nat} {P : Debuggee → Prop} {Q helps : Nat → Prop}
    (first : ∃ d, (c.during os n).debuggees[i]? = some d ∧ P d)
    (nears : ∀ k ≥ n, ∀ d d', (c.momentAt os k).before.debuggees[i]? = some d → P d →
      (c.during os (k + 1)).debuggees[i]? = some d' → (c.momentAt os k).Fares i d d' →
        Q (k + 1) ∨ P d' ∧ f d' ≤ f d ∧ (helps k → f d' < f d))
    (again : ∀ k, ∃ m ≥ k, helps m) : ∃ k ≥ n, Q k := by
  let rank (k : Nat) : Nat := ((c.during os k).debuggees[i]?.map f).getD 0
  refine leads (P := fun k => ∃ d, (c.during os k).debuggees[i]? = some d ∧ P d) (μ := rank) first
    (fun k later on => ?_) again
  obtain ⟨d, found, holds⟩ := on
  obtain ⟨d', found', fares⟩ := (c.momentAt os k).fares (i := i) (d := d) found
  refine (nears k later d d' found holds found' fares).imp_right fun nearer => ?_
  have before : rank k = f d := by simp only [rank, found, Option.map_some, Option.getD_some]
  have after : rank (k + 1) = f d' := by
    have found' : (c.during os (k + 1)).debuggees[i]? = some d' := found'
    simp only [rank, found', Option.map_some, Option.getD_some]
  rw [before, after]
  exact ⟨⟨d', found', nearer.1⟩, nearer.2⟩

/-- Whether the channel to interpreter `i` has closed. -/
def Closed (c : Control) (os : Nat → Occurrence) (i k : Nat) : Prop :=
  ∃ d, (c.during os k).debuggees[i]? = some d ∧ d.link.Regular ∧ d.link.channel.closed = true

theorem Closed.mono (closed : c.Closed os i n) (later : n ≤ k) : c.Closed os i k := by
  induction later with
  | refl => exact closed
  | @step k later ih =>
      obtain ⟨d, found, regular, closed⟩ := ih
      obtain ⟨d', found', fares⟩ := (c.momentAt os k).fares (i := i) (d := d) found
      exact ⟨d', found', fares.regular regular, fares.stays_closed found regular closed⟩

/-! ## Fairness -/

/-- What is attended to again and again. -/
structure Fair (os : Nat → Occurrence) (i : Nat) : Prop where
  command : ∀ n, ∃ m ≥ n, ∃ now, (os m).happening = .activity now (.debuggee i (.link .command))
  read : ∀ n, ∃ m ≥ n, ∃ now, (os m).happening = .activity now (.debuggee i (.link .read))
  forward : ∀ n, ∃ m ≥ n, ∃ now, (os m).happening = .activity now (.debuggee i .forward)
  hear : ∀ n, ∃ m ≥ n, ∃ now, (os m).happening = .activity now .hear
  /-- Time goes on. -/
  advance : ∀ due n, ∃ m ≥ n, ∃ now ≥ due, (os m).happening = .activity now .advance

/-- From the `n`th moment on, interpreter `i` has closed its stream. -/
structure Deserts (c : Control) (os : Nat → Occurrence) (i n : Nat) : Prop where
  gone : ∃ d, (c.during os n).debuggees[i]? = some d ∧ d.link.line.inbound.writerGone = true
  stays : ∀ k ≥ n, ∀ line complaints fate, (os k).happening = .interpreter i line complaints fate →
    ∀ d, (c.during os k).debuggees[i]? = some d → line.inbound = d.link.line.inbound

/-- A start that waits for a first status is served or fails. -/
theorem settles (launches : (c.momentAt os n).launches = true)
    (unreplaced : ∀ k, c.Unreplaced os n k) (fair : Fair os (c.newcomer os n)) :
    ∃ k > n, (c.during os k).starting? = none := by
  have first := standing_during launches (Nat.lt_succ_self n) (unreplaced _)
  generalize c.endings os n n.succ = ended at first
  cases first with
  | failed vacant => exact ⟨n + 1, Nat.lt_succ_self n, vacant.starting⟩
  | installed installed => exact ⟨n + 1, Nat.lt_succ_self n, installed.starting⟩
  | @awaited task due present starting balances =>
      refine leads (n := n + 1) (μ := fun _ => 0)
        (P := fun k => (c.during os k).starting? =
          some { task, phase := .status (c.newcomer os n) due })
        starting (fun k later waits => ?_) (fair.advance due)
      have standing := standing_facing (standing_during launches later (unreplaced k)) (os k)
      generalize c.endings os n k = ended at standing
      cases standing with
      | failed vacant => cases waits.symm.trans vacant.starting
      | installed installed => cases waits.symm.trans installed.starting
      | awaited present starting balances =>
          cases waits.symm.trans starting
          obtain ⟨-, idle | ⟨same, early⟩⟩ := Moment.awaited_next (m := c.momentAt os k) present
            starting balances (unreplaced (k + 1) k later (Nat.lt_succ_self k))
          · exact .inl idle
          · exact .inr ⟨same.trans starting, Nat.le_refl 0, fun ⟨now, late, happening⟩ =>
              absurd happening (early now late)⟩

variable (fair : Fair os i)
include fair

/-- An interpreter that has been told to stop is killed. -/
theorem ends_of_leaving (leaving : ∃ d, (c.during os n).debuggees[i]? = some d ∧
      d.link.Regular ∧ d.link.Leaving) :
    ∃ k ≥ n, ∃ d, (c.during os k).debuggees[i]? = some d ∧ d.link.Regular ∧
      d.link.channel.ended = true := by
  refine leads_fares (f := (·.link.stopAt)) leaving (fun k _ d d' found holds found' fares => ?_)
    fair.command
  obtain ⟨regular, leaving⟩ := holds
  have regular' := fares.regular regular
  cases ended : d'.link.channel.ended with
  | true => exact .inl ⟨d', found', regular', ended⟩
  | false =>
      obtain ⟨leaving', nearer, helps⟩ := fares.leaves leaving ended
      exact .inr ⟨⟨regular', leaving'⟩, nearer, fun ⟨now, helping⟩ => helps now helping⟩

/-- A channel to which nobody writes any more closes. -/
theorem closes_of_deserted (deserts : c.Deserts os i n)
    (regular : ∃ d, (c.during os n).debuggees[i]? = some d ∧ d.link.Regular) :
    ∃ k ≥ n, c.Closed os i k := by
  obtain ⟨d, found, regular⟩ := regular
  obtain ⟨d', found', gone⟩ := deserts.gone
  cases found.symm.trans found'
  refine leads_fares (f := (·.link.unread))
    (P := fun d => d.link.Regular ∧ d.link.line.inbound.writerGone = true) ⟨d, found, regular, gone⟩
    (fun k later d d' found holds found' fares => ?_) fair.read
  obtain ⟨regular, gone⟩ := holds
  have regular' := fares.regular regular
  cases closed : d'.link.channel.closed with
  | true => exact .inl ⟨d', found', regular', closed⟩
  | false =>
      have stays (line : Framing.Line) (complaints : Framing.Pipe) (fate : Option (Option Int))
          (happening : (os k).happening = .interpreter i line complaints fate) :
          line.inbound = d.link.line.inbound :=
        deserts.stays k later line complaints fate happening d found
      obtain ⟨gone', nearer, helps⟩ := fares.drains regular gone stays closed
      exact .inr ⟨⟨regular', gone'⟩, nearer, fun ⟨now, helping⟩ => helps now helping⟩

theorem news_of_reported (waits : ∃ d, (c.during os n).debuggees[i]? = some d ∧
      ∃ e ∈ d.reports, e.isClosed = true) :
    ∃ k ≥ n, ∃ d, (c.during os k).debuggees[i]? = some d ∧ ∃ e ∈ d.news, e.isClosed = true := by
  refine leads_fares (f := (·.reportsAhead)) waits (fun k _ d d' _ waits found' fares => ?_)
    fair.forward
  exact (fares.passes waits).imp (fun news => ⟨d', found', news⟩) fun ⟨waits', nearer, helps⟩ =>
    ⟨waits', nearer, fun ⟨now, helping⟩ => helps now helping⟩

/-- An end that is news is heard while the interpreter is the present one. -/
theorem heard_of_news (present : ∀ k ≥ n, (c.during os k).present = some i)
    (waits : ∃ d, (c.during os n).debuggees[i]? = some d ∧ ∃ e ∈ d.news, e.isClosed = true) :
    ∃ k ≥ n, ∃ e, (c.momentAt os k).heard? = some (i, e) ∧ e.isClosed = true := by
  have heard : ∃ k ≥ n, ∃ j ≥ n, k = j + 1 ∧
      ∃ e, (c.momentAt os j).heard? = some (i, e) ∧ e.isClosed = true := by
    refine leads_fares (f := (·.newsAhead)) waits (fun k later d d' found waits _ fares => ?_) fair.hear
    refine (fares.listens found (present k later) waits).imp (fun heard => ⟨k, later, rfl, heard⟩) ?_
    exact fun ⟨waits', nearer, helps⟩ => ⟨waits', nearer, fun ⟨now, helping⟩ => helps now helping⟩
  obtain ⟨-, -, j, later, -, heard⟩ := heard
  exact ⟨j, later, heard⟩

theorem heard_of_toCome (present : ∀ k ≥ n, (c.during os k).present = some i) {d : Debuggee}
    (found : (c.during os n).debuggees[i]? = some d)
    (waits : 0 < d.toCome.countP Monitor.Event.isClosed) :
    ∃ k ≥ n, ∃ e, (c.momentAt os k).heard? = some (i, e) ∧ e.isClosed = true := by
  obtain ⟨e, member, closed⟩ := List.countP_pos_iff.mp waits
  obtain news | reported := List.mem_append.mp member
  · exact heard_of_news fair present ⟨d, found, e, (List.mem_filter.mp news).1, closed⟩
  · obtain ⟨r, member, passed⟩ := List.mem_filterMap.mp reported
    have closed' : r.isClosed = true := by
      cases e with
      | closed code => rw [Monitor.eventOfChannel?_closed passed]; rfl
      | _ => cases closed
    obtain ⟨k, later, news⟩ := news_of_reported fair ⟨d, found, r, member, closed'⟩
    obtain ⟨j, still, heard⟩ :=
      heard_of_news fair (fun j still => present j (Nat.le_trans later still)) news
    exact ⟨j, Nat.le_trans later still, heard⟩

end

/-! ## Every session -/

section

variable {c : Control} {os : Nat → Occurrence} {n k : Nat}

theorem housed_during (housed : c.Housed) (k : Nat) : (c.during os k).Housed := by
  induction k with
  | zero => exact housed
  | succ k ih => exact housed_happen (housed_facing ih (os k)) (os k).happening

theorem endings_mono (c : Control) (os : Nat → Occurrence) {k' : Nat} (first : n ≤ k) (later : k ≤ k') :
    c.endings os n k ≤ c.endings os n k' := by
  induction later with
  | refl => exact Nat.le_refl _
  | @step k' later ih =>
      rw [c.endings_succ os (Nat.le_trans first later)]
      exact Nat.le_add_right_of_le ih

theorem installed_during {i : Nat} (installed : (c.during os n).Installed i)
    (unlaunched : ∀ k ≥ n, (c.momentAt os k).launches = false) (later : n ≤ k) :
    (c.during os k).Installed i := by
  induction later with
  | refl => exact installed
  | @step k later ih =>
      exact (Moment.installed_next (m := c.momentAt os k) ⟨ih.present, ih.starting⟩
        (unlaunched k later)).1

section

variable (launches : (c.momentAt os n).launches = true)
include launches

theorem endings_le_one (later : n < k) (unreplaced : c.Unreplaced os n k) :
    c.endings os n k ≤ 1 :=
  (standing_during launches later unreplaced).le_one

/-- From the start on, only its own interpreter is heard. -/
theorem voiced_during (later : n ≤ k) (unreplaced : c.Unreplaced os n (k + 1)) :
    (c.momentAt os k).Voiced (c.newcomer os n) := by
  refine Moment.voiced fun unlaunched j here => ?_
  have later : n < k := by
    refine Nat.lt_of_le_of_ne later ?_
    rintro rfl
    rw [launches] at unlaunched
    cases unlaunched
  have standing := standing_during launches later fun j after before => unreplaced j after (by omega)
  exact (standing_facing standing (os k)).own j here

theorem ended_of_fails (later : n ≤ k) {e : Monitor.StartError}
    (fails : (c.momentAt os k).Fails (c.newcomer os n) e) {k' : Nat} (after : k < k')
    (unreplaced : c.Unreplaced os n k') : c.endings os n k' = 1 := by
  have most := endings_le_one launches (by omega) unreplaced
  have here : c.endings os n (k + 1) = c.endings os n k + 1 := by
    rw [c.endings_succ os later, fails.notices]
    rfl
  have less := c.endings_mono os (show n ≤ k + 1 by omega) after
  omega

/-- A channel of an interpreter that has been disposed of, or has closed its stream, closes, unless
the session has ended otherwise. -/
theorem closes (unreplaced : ∀ k, c.Unreplaced os n k) (housed : c.Housed)
    (fair : Fair os (c.newcomer os n))
    (how : (∃ k > n, (c.momentAt os k).Disposes (c.newcomer os n)) ∨
      ∃ k > n, c.Deserts os (c.newcomer os n) k) :
    ∃ k > n, c.endings os n k = 1 ∨ c.Closed os (c.newcomer os n) k := by
  have standing (k : Nat) (later : n < k) := standing_during launches later (unreplaced k)
  obtain ⟨k, later, disposes⟩ | ⟨k, later, deserts⟩ := how
  · obtain ⟨d, found, dismissed⟩ :=
      dismissed_of_disposes (housed_facing (housed_during housed k) (os k)) disposes
    obtain ended | ⟨d', found', regular, -⟩ := (standing (k + 1) (by omega)).balances
    · exact ⟨k + 1, by omega, .inl ended⟩
    · cases found.symm.trans found'
      obtain ⟨k', still, d', found', regular', ended⟩ :=
        ends_of_leaving fair ⟨d, found', regular, dismissed.leaving⟩
      exact ⟨k', by omega, .inr ⟨d', found', regular', regular'.consistent.ended ended⟩⟩
  · obtain ended | ⟨d, found, regular, -⟩ := (standing k later).balances
    · exact ⟨k, later, .inl ended⟩
    · obtain ⟨k', still, closed⟩ := closes_of_deserted fair deserts ⟨d, found, regular⟩
      exact ⟨k', by omega, .inr closed⟩

theorem ends_of_closed (unreplaced : ∀ k, c.Unreplaced os n k) (fair : Fair os (c.newcomer os n))
    (later : n < k) (installed : (c.during os k).Installed (c.newcomer os n))
    (closed : c.Closed os (c.newcomer os n) k) : ∃ k > n, 0 < c.endings os n k := by
  obtain ended | ⟨d, found, -, balance⟩ := (standing_during launches later (unreplaced k)).balances
  · exact ⟨k, later, by omega⟩
  · obtain ⟨d', found', -, closed⟩ := closed
    cases found.symm.trans found'
    rw [closed] at balance
    by_cases ended : 0 < c.endings os n k
    · exact ⟨k, later, ended⟩
    · have unlaunched (j : Nat) (still : j ≥ k) : (c.momentAt os j).launches = false :=
        unreplaced (j + 1) j (by omega) (Nat.lt_succ_self j)
      have stays (j : Nat) (still : j ≥ k) : (c.during os j).Installed (c.newcomer os n) :=
        installed_during installed unlaunched still
      have waits : 0 < d.toCome.countP Monitor.Event.isClosed := by
        have one : true.toNat = 1 := rfl
        omega
      obtain ⟨j, still, e, heard, closed⟩ :=
        heard_of_toCome fair (fun j still => (stays j still).present) found waits
      obtain ⟨-, count⟩ := Moment.installed_next (m := c.momentAt os j)
        ⟨(stays j still).present, (stays j still).starting⟩ (unlaunched j still)
      refine ⟨j + 1, by omega, ?_⟩
      rw [c.endings_succ os (by omega), count, Moment.heardOf_eq heard]
      simp [closed]

theorem ends_in_time (unreplaced : ∀ k, c.Unreplaced os n k) (housed : c.Housed)
    (fair : Fair os (c.newcomer os n))
    (how : (∃ k > n, (c.momentAt os k).Disposes (c.newcomer os n)) ∨
      ∃ k > n, c.Deserts os (c.newcomer os n) k) :
    ∃ k > n, ∀ k' ≥ k, c.endings os n k' = 1 := by
  have once : (∃ k > n, 0 < c.endings os n k) → ∃ k > n, ∀ k' ≥ k, c.endings os n k' = 1 := by
    rintro ⟨k, later, ended⟩
    refine ⟨k, later, fun k' still => ?_⟩
    have most := endings_le_one launches (Nat.lt_of_lt_of_le later still) (unreplaced k')
    have less := c.endings_mono os (Nat.le_of_lt later) still
    omega
  refine once ?_
  obtain ⟨k₁, later₁, idle⟩ := settles launches unreplaced fair
  obtain ⟨k₂, later₂, ended | closed⟩ := closes launches unreplaced housed fair how
  · exact ⟨k₂, later₂, by omega⟩
  · have standing := standing_during launches later₁ (unreplaced k₁)
    generalize same : c.endings os n k₁ = ended at standing
    cases standing with
    | failed => exact ⟨k₁, later₁, by omega⟩
    | awaited _ starting => cases idle.symm.trans starting
    | installed installed =>
        have unlaunched (j : Nat) (still : j ≥ k₁) : (c.momentAt os j).launches = false :=
          unreplaced (j + 1) j (by omega) (Nat.lt_succ_self j)
        exact ends_of_closed launches unreplaced fair (by omega)
          (installed_during installed unlaunched (Nat.le_max_left k₁ k₂))
          (closed.mono (Nat.le_max_right k₁ k₂))

end

/-! ## Starts and ends -/

/-- How often a start has got its turn before the `k`th moment. -/
def starts (c : Control) (os : Nat → Occurrence) (k : Nat) : Nat :=
  (List.range k).countP fun j => (c.momentAt os j).launches

theorem starts_succ (c : Control) (os : Nat → Occurrence) (k : Nat) :
    c.starts os (k + 1) = c.starts os k + (c.momentAt os k).launches.toNat := by
  rw [starts, List.range_succ, List.countP_append, List.countP_singleton, starts]
  cases (c.momentAt os k).launches <;> rfl

theorem vacant_during (vacant : c.Vacant) (unlaunched : ∀ j < k, (c.momentAt os j).launches = false) :
    (c.during os k).Vacant := by
  induction k with
  | zero => exact vacant
  | succ k ih =>
      have before := ih fun j earlier => unlaunched j (by omega)
      exact (Moment.vacant_next (m := c.momentAt os k) ⟨before.present, before.starting⟩
        (unlaunched k (Nat.lt_succ_self k))).1

/-- What holds of the ends that have been noted so far: each is that of another start, and one more
is left to a session that goes on. -/
def Accounted (c : Control) (os : Nat → Occurrence) (k : Nat) : Prop :=
  (c.during os k).Vacant ∧ c.endings os 0 k ≤ c.starts os k ∨
    ∃ i ended, Standing (c.during os k) i ended ∧ c.endings os 0 k + 1 ≤ c.starts os k + ended

theorem Accounted.le (accounted : c.Accounted os k) : c.endings os 0 k ≤ c.starts os k := by
  obtain ⟨-, le⟩ | ⟨i, ended, standing, le⟩ := accounted
  · exact le
  · have most := standing.le_one
    omega

theorem accounted_succ (accounted : c.Accounted os k) : c.Accounted os (k + 1) := by
  have count := c.endings_succ os (Nat.zero_le k)
  have begun := c.starts_succ os k
  cases launches : (c.momentAt os k).launches with
  | true =>
      have most := accounted.le
      have one : true.toNat = 1 := rfl
      rw [launches, one] at begun
      exact .inr ⟨_, _, Moment.standing_launch (m := c.momentAt os k) launches, by omega⟩
  | false =>
      have zero : false.toNat = 0 := rfl
      rw [launches, zero] at begun
      obtain ⟨vacant, le⟩ | ⟨i, ended, standing, le⟩ := accounted
      · obtain ⟨vacant', silent⟩ :=
          Moment.vacant_next (m := c.momentAt os k) ⟨vacant.present, vacant.starting⟩ launches
        exact .inl ⟨vacant', by omega⟩
      · have standing := standing_facing standing (os k)
        exact .inr ⟨i, _, Moment.standing_next (m := c.momentAt os k) standing launches, by omega⟩

theorem accounted_during (vacant : c.Vacant) (k : Nat) : c.Accounted os k := by
  induction k with
  | zero => exact .inl ⟨vacant, by simp [endings, noted, during, endless]⟩
  | succ k ih => exact accounted_succ ih

/-- What follows when a start gets its turn at the `n`th moment. -/
structure EndsOnce (c : Control) (os : Nat → Occurrence) (n : Nat) : Prop where
  /-- Until the next start gets its turn, its end is noted once at most, ... -/
  once : ∀ k > n, c.Unreplaced os n k → c.endings os n k ≤ 1
  /-- ... and nothing is noted of any other interpreter. -/
  own : ∀ k ≥ n, c.Unreplaced os n (k + 1) → (c.momentAt os k).Voiced (c.newcomer os n)
  /-- Its end has been noted once it has failed. -/
  failed : ∀ k ≥ n, ∀ e, (c.momentAt os k).Fails (c.newcomer os n) e →
    ∀ k' > k, c.Unreplaced os n k' → c.endings os n k' = 1
  /-- When its interpreter is disposed of or closes its stream, its end is noted in time, unless
  another start gets its turn. -/
  ends : (∀ k, c.Unreplaced os n k) → Fair os (c.newcomer os n) →
    ((∃ k > n, (c.momentAt os k).Disposes (c.newcomer os n)) ∨
      ∃ k > n, c.Deserts os (c.newcomer os n) k) →
    ∃ k > n, ∀ k' ≥ k, c.endings os n k' = 1

/-- What there is to say of sessions. -/
structure SessionsEnd (c : Control) (os : Nat → Occurrence) : Prop where
  /-- Nothing is noted before a start gets its turn. -/
  before : ∀ k, (∀ j ≤ k, (c.momentAt os j).launches = false) → (c.momentAt os k).said = []
  /-- No more ends are noted than starts have got their turn. -/
  few : ∀ k, c.endings os 0 k ≤ c.starts os k
  endsOnce : ∀ n, (c.momentAt os n).launches = true → c.EndsOnce os n

end

/-- An interpreter that has come up closes its stream. -/
def crashed : List Happening :=
  resuming "CallUpdate" ++ [.interpreter 0 { inbound := { writerGone := true } } {} none]

/-- What belongs to interpreter 0 and is attended to in turn. -/
def attending (now : Millis) : Nat → Happening
  | 0 => .activity now (.debuggee 0 (.link .command))
  | 1 => .activity now (.debuggee 0 (.link .read))
  | 2 => .activity now (.debuggee 0 .forward)
  | 3 => .activity now .hear
  | _ => .activity now .advance

def crashing (n : Nat) : Occurrence := { happening := (crashed[n]?).getD (attending n (n % 5)) }

theorem crashing_late {n : Nat} (late : crashed.length ≤ n) :
    (crashing n).happening = attending n (n % 5) := rounds_late _ _ late

theorem attending_cases (now : Millis) (r : Nat) :
    (∃ a, attending now r = .activity now (.debuggee 0 a)) ∨
      attending now r = .activity now .hear ∨ attending now r = .activity now .advance := by
  unfold attending
  split
  · exact .inl ⟨_, rfl⟩
  · exact .inl ⟨_, rfl⟩
  · exact .inl ⟨_, rfl⟩
  · exact .inr (.inl rfl)
  · exact .inr (.inr rfl)

theorem fair_crashing : Fair crashing 0 := by
  have again (r : Nat) (small : r < 5) (n : Nat) :
      ∃ m ≥ n, (crashing m).happening = attending m r := rounds_again _ _ small n
  have often {r : Nat} {a : Activity} (small : r < 5) (does : ∀ now, attending now r = .activity now a)
      (n : Nat) : ∃ m ≥ n, ∃ now, (crashing m).happening = .activity now a := by
    obtain ⟨m, later, happening⟩ := again r small n
    exact ⟨m, later, m, happening.trans (does m)⟩
  refine ⟨often (r := 0) (by omega) fun _ => rfl, often (r := 1) (by omega) fun _ => rfl,
    often (r := 2) (by omega) fun _ => rfl, often (r := 3) (by omega) fun _ => rfl, fun due n => ?_⟩
  obtain ⟨m, later, happening⟩ := again 4 (by omega) (n + due)
  exact ⟨m, by omega, m, Nat.le_trans (Nat.le_add_left due n) later, happening⟩

end Control

end DebugAdapter
