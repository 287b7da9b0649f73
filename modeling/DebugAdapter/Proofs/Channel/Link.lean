import DebugAdapter.Channel.Link
import DebugAdapter.Proofs.Channel.Settlement
/-!
# Moves of a link

What the channel hears of a move, and what the move does to the commands and the requests that wait.
-/

namespace DebugAdapter.Channel

variable {ρ : Type}

/-- Who asks for something by a command. -/
def Command.asker? : Command ρ → Option ρ
  | .request asker .. => some asker
  | _ => none

namespace Link

/-- The requests that the channel has not looked at yet. -/
def askers (l : Link ρ) : List ρ := l.commands.filterMap Command.asker?

/-- What the channel hears if a move is made. -/
def heard? (l : Link ρ) (now : Millis) (move : Move) : Option (Input ρ) :=
  if l.channel.ended then none
  else
    match move with
    | .command =>
      match l.commands with
      | c :: _ => some (.command c)
      | [] => if l.holders = 0 then some .released else none
    | .read =>
      if l.channel.readerOpen then
        match (l.intake.take l.line.inbound).1 with
        | .nothing => none
        | .frame f => some (.frame f)
        | .over => some .endOfOutput
      else none
    | .complain => none
    | .reap => if l.channel.hasChild then l.fate.map .exit else none
    | .flush => l.channel.flushDue.bind fun due => if due ≤ now then some .flush else none
    | .expire =>
      l.channel.requests.nextDeadline?.bind fun due => if due ≤ now then some .expire else none

/-- The step of the channel in a move, if there is one. -/
def occasion? (l : Link ρ) (now : Millis) (move : Move) : Option (Occasion ρ) :=
  (l.heard? now move).map fun input => ⟨l.channel, l.surroundings now, input⟩

theorem occasion?_eq {l : Link ρ} {now : Millis} {move : Move} {o : Occasion ρ}
    (h : l.occasion? now move = some o) :
    o.before = l.channel ∧ o.before.ended = false ∧ o.env.now = now := by
  obtain ⟨input, heard, rfl⟩ := Option.map_eq_some_iff.mp h
  refine ⟨rfl, ?_, rfl⟩
  cases ended : l.channel.ended with
  | false => rfl
  | true =>
      unfold heard? at heard
      rw [if_pos ended] at heard
      cases heard

theorem send?_other (l : Link ρ) {c : Command ρ} (other : c.asker? = none) :
    ((l.send? c).getD l).channel = l.channel ∧ ((l.send? c).getD l).askers = l.askers ∧
      (l.channel.ended = true → ((l.send? c).getD l).commands = l.commands) := by
  cases ended : l.channel.ended <;> simp [send?, ended, askers, other]

/-- What a move does. -/
inductive Moved (l : Link ρ) (now : Millis) (move : Move) (l' : Link ρ) (effects : List (Effect ρ)) :
    Prop where
  /-- The channel takes a step; `left` are the requests that it has still not looked at. -/
  | heard (o : Occasion ρ) (left : List ρ) (occasion : l.occasion? now move = some o)
      (channel : l'.channel = o.after) (askers : l.askers = o.asker?.toList ++ left)
      (commands : l'.channel.ended = true → l'.commands = [])
      (askers' : l'.askers = if o.after.ended then [] else left)
      (completed : effects.filterMap Effect.completion? =
        o.completed ++ if o.after.ended then left.map fun a => (a, .error .closed) else [])
      (reported : effects.any Effect.isClosed = o.effects.any Effect.isClosed)
      (events : effects.filterMap Effect.event? = o.events)
      (written : effects.filterMap Effect.written? = o.written)
  | unheard (occasion : l.occasion? now move = none) (channel : l'.channel = l.channel)
      (commands : l'.commands = l.commands)
      (completed : effects.filterMap Effect.completion? = [])
      (silent : effects.any Effect.isClosed = false)
      (complaints : ∀ e ∈ effects, ∃ text, e = .emit (.complaint text))

theorem abandoned_completion (commands : List (Command ρ)) :
    (abandoned commands).filterMap Effect.completion? =
      (commands.filterMap Command.asker?).map fun a => (a, .error .closed) := by
  induction commands with
  | nil => rfl
  | cons c commands ih =>
      cases c <;> simp_all [abandoned, Command.asker?, Effect.completion?, List.filterMap_cons]

theorem abandoned_silent (commands : List (Command ρ)) :
    (abandoned commands).any Effect.isClosed = false := by
  induction commands with
  | nil => rfl
  | cons c commands ih =>
      cases c <;> simp_all [abandoned, Effect.isClosed]

theorem mem_abandoned {commands : List (Command ρ)} {e : Effect ρ} (h : e ∈ abandoned commands) :
    ∃ a, e = .complete a (.error .closed) := by
  obtain ⟨c, -, same⟩ := List.mem_filterMap.mp h
  cases c with
  | request asker => exact ⟨asker, (Option.some.inj same).symm⟩
  | send | stop => cases same

theorem abandoned_shows (commands : List (Command ρ)) :
    (abandoned commands).filterMap Effect.event? = [] ∧
      (abandoned commands).filterMap Effect.written? = [] := by
  constructor <;> apply List.filterMap_eq_nil_iff.mpr <;> intro e mem <;>
    obtain ⟨a, rfl⟩ := mem_abandoned mem <;> rfl

/-- Only a command ends the channel, or that nobody holds it any more. -/
theorem ended_step (o : Occasion ρ) (live : o.before.ended = false)
    (stop : o.input ≠ .command .stop) (released : o.input ≠ .released) : o.after.ended = false := by
  cases o.settling live with
  | idle calm | refused _ calm | accepted _ calm | answered _ _ calm | expired calm => exact calm.ended
  | failed _ ended =>
      cases last : o.after.ended with
      | false => rfl
      | true => exact (ended last).elim (absurd · stop) (absurd · released)

section

variable (l : Link ρ) (now : Millis)

theorem step_eq (o : Occasion ρ) (channel : o.before = l.channel)
    (env : o.env = l.surroundings now) :
    (l.step now o.input).1.channel = o.after ∧ (l.step now o.input).2 = o.effects ∧
      (l.step now o.input).1.commands = if o.after.ended then [] else l.commands := by
  obtain ⟨c, env', input⟩ := o
  cases channel
  cases env
  exact ⟨rfl, rfl, rfl⟩

/-- A move in which the channel hears something else than a command; `l'` is the link from which
that has been taken. -/
theorem moved_step (move : Move) (l' : Link ρ) (input : Input ρ)
    (heard : l.heard? now move = some input) (live : l.channel.ended = false)
    (channel : l'.channel = l.channel) (env : l'.surroundings now = l.surroundings now)
    (commands : l'.commands = l.commands) (other : ∀ c, input ≠ .command c)
    (alone : input = .released → l.commands = []) :
    Moved l now move (l'.step now input).1 (l'.step now input).2 := by
  let o : Occasion ρ := ⟨l.channel, l.surroundings now, input⟩
  obtain ⟨channel', effects, commands'⟩ := l'.step_eq now o channel.symm env.symm
  have asker : o.asker? = none := by
    unfold Occasion.asker?
    split
    · rename_i same
      exact absurd same (other _)
    · rfl
  -- Such a step ends the channel only if nobody holds it, and then no command waits.
  have none_ (last : o.after.ended = true) : l.askers = [] := by
    by_cases released : input = .released
    · rw [askers, alone released]
      rfl
    · exact absurd last (by simp [ended_step o live (other _) released])
  refine .heard o l.askers (by rw [occasion?, heard]; rfl) channel' (by rw [asker]; rfl) ?_ ?_ ?_ ?_
    (by rw [effects]; rfl) (by rw [effects]; rfl)
  · intro last
    rw [channel'] at last
    exact commands'.trans (if_pos last)
  · rw [askers, show (l'.step now input).1.commands = _ from commands', commands]
    cases o.after.ended <;> rfl
  · rw [show (l'.step now input).2 = _ from effects]
    cases last : o.after.ended with
    | true => simp [none_ last, Occasion.completed]
    | false => simp [Occasion.completed]
  · rw [show (l'.step now input).2 = _ from effects]

theorem moved_command (c : Command ρ) (rest : List (Command ρ)) (commands : l.commands = c :: rest)
    (live : l.channel.ended = false) :
    let after := ({ l with commands := rest } : Link ρ).step now (.command c)
    Moved l now .command after.1
      (after.2 ++ if after.1.channel.ended then abandoned rest else []) := by
  intro after
  let o : Occasion ρ := ⟨l.channel, l.surroundings now, .command c⟩
  obtain ⟨channel', effects, commands'⟩ :=
    ({ l with commands := rest } : Link ρ).step_eq now o rfl rfl
  have heard : l.heard? now .command = some (.command c) := by simp [heard?, live, commands]
  refine .heard o (rest.filterMap Command.asker?) (by rw [occasion?, heard]; rfl) channel' ?_ ?_ ?_
    ?_ ?_ ?_ ?_
  · rw [askers, commands]
    cases c <;> rfl
  · intro last
    rw [show after.1.channel = _ from channel'] at last
    exact commands'.trans (if_pos last)
  · rw [askers, show after.1.commands = _ from commands']
    cases o.after.ended <;> rfl
  · rw [show after.2 = _ from effects, show after.1.channel = _ from channel',
      List.filterMap_append]
    cases o.after.ended with
    | true => simp [abandoned_completion, Occasion.completed]
    | false => simp [Occasion.completed]
  · rw [show after.2 = _ from effects, show after.1.channel = _ from channel', List.any_append]
    cases o.after.ended with
    | true => simp [abandoned_silent]
    | false => simp
  · rw [show after.2 = _ from effects, List.filterMap_append]
    split <;> simp [abandoned_shows, Occasion.events]
  · rw [show after.2 = _ from effects, List.filterMap_append]
    split <;> simp [abandoned_shows, Occasion.written]

theorem moved_complain (l' : Link ρ) (effects : List (Effect ρ))
    (passed : l.complain? = some (l', effects)) : Moved l now .complain l' effects := by
  have unheard : l.occasion? now .complain = none := by
    unfold occasion? heard?
    split <;> rfl
  unfold complain? at passed
  split at passed
  · cases passed
  · cases passed
    exact .unheard unheard rfl rfl rfl rfl (fun _ mem => ⟨_, List.mem_singleton.mp mem⟩)

theorem moved_read (live : l.channel.ended = false) :
    (l.perform? now .read = none ∧ l.occasion? now .read = none) ∨
      ∃ l' effects, l.perform? now .read = some (l', effects) ∧ Moved l now .read l' effects := by
  cases readable : l.channel.readerOpen with
  | false =>
      exact .inl ⟨by simp [perform?, live, readable], by simp [occasion?, heard?, live, readable]⟩
  | true =>
      rcases take : l.intake.take l.line.inbound with ⟨f | _ | _, intake, inbound⟩
      · refine .inr ⟨_, _, ?_, l.moved_step now .read
          { l with intake, line := { l.line with inbound } } (.frame f) ?_ live rfl rfl rfl
          (by simp) (by simp)⟩ <;>
          simp [perform?, heard?, live, readable, take]
      · refine .inr ⟨_, _, ?_, l.moved_step now .read
          { l with intake, line := { l.line with inbound } } .endOfOutput ?_ live rfl rfl rfl
          (by simp) (by simp)⟩ <;>
          simp [perform?, heard?, live, readable, take]
      · have unheard : l.occasion? now .read = none := by
          simp [occasion?, heard?, live, readable, take]
        by_cases idle : l.line.inbound.octets.isEmpty && !l.intake.readable
        · exact .inl ⟨by simp [perform?, live, readable, take, idle], unheard⟩
        · refine .inr ⟨{ l with intake, line := { l.line with inbound } }, [], ?_,
            .unheard unheard rfl rfl rfl rfl (by simp)⟩
          simp [perform?, live, readable, take, idle]

theorem moved_live (live : l.channel.ended = false) (move : Move) :
    (l.perform? now move = none ∧ l.occasion? now move = none) ∨
      ∃ l' effects, l.perform? now move = some (l', effects) ∧ Moved l now move l' effects := by
  have heard (input : Input ρ) (heard : l.heard? now move = some input)
      (other : ∀ c, input ≠ .command c) (alone : input = .released → l.commands = []) :=
    l.moved_step now move l input heard live rfl rfl rfl other alone
  cases move with
  | command =>
      cases commands : l.commands with
      | nil =>
          by_cases holders : l.holders = 0
          · refine .inr ⟨_, _, ?_, heard .released ?_ (by simp) (fun _ => commands)⟩ <;>
              simp [perform?, heard?, live, commands, holders]
          · exact .inl (by simp [perform?, occasion?, heard?, live, commands, holders])
      | cons c rest =>
          refine .inr ⟨_, _, ?_, l.moved_command now c rest commands live⟩
          simp [perform?, live, commands]
  | read => exact l.moved_read now live
  | complain =>
      cases passed : l.complain? with
      | none =>
          refine .inl ⟨passed, ?_⟩
          simp [occasion?, heard?]
      | some after => exact .inr ⟨_, _, passed, l.moved_complain now _ _ passed⟩
  | reap =>
      cases child : l.channel.hasChild with
      | false => exact .inl (by simp [perform?, occasion?, heard?, live, child])
      | true =>
          cases fate : l.fate with
          | none => exact .inl (by simp [perform?, occasion?, heard?, live, child, fate])
          | some code =>
              refine .inr ⟨_, _, ?_, heard (.exit code) ?_ (by simp) (by simp)⟩ <;>
                simp [perform?, heard?, live, child, fate]
  | flush =>
      cases due : l.channel.flushDue with
      | none => exact .inl (by simp [perform?, occasion?, heard?, due])
      | some at_ =>
          by_cases passed : at_ ≤ now
          · refine .inr ⟨_, _, ?_, heard .flush ?_ (by simp) (by simp)⟩ <;>
              simp [perform?, heard?, live, due, passed]
          · exact .inl (by simp [perform?, occasion?, heard?, live, due, passed])
  | expire =>
      cases due : l.channel.requests.nextDeadline? with
      | none => exact .inl (by simp [perform?, occasion?, heard?, due])
      | some at_ =>
          by_cases passed : at_ ≤ now
          · refine .inr ⟨_, _, ?_, heard .expire ?_ (by simp) (by simp)⟩ <;>
              simp [perform?, heard?, live, due, passed]
          · exact .inl (by simp [perform?, occasion?, heard?, live, due, passed])

/-- What a move does, if it is possible; if it is not, the channel would not hear anything. -/
theorem perform?_moved (move : Move) :
    (l.perform? now move = none ∧ l.occasion? now move = none) ∨
      ∃ l' effects, l.perform? now move = some (l', effects) ∧ Moved l now move l' effects := by
  cases live : l.channel.ended with
  | false => exact l.moved_live now live move
  | true =>
      have unheard : l.occasion? now move = none := by simp [occasion?, heard?, live]
      cases move with
      | complain =>
          cases passed : l.complain? with
          | none => exact .inl ⟨passed, unheard⟩
          | some after => exact .inr ⟨_, _, passed, l.moved_complain now _ _ passed⟩
      | flush =>
          refine .inl ⟨?_, unheard⟩
          cases due : l.channel.flushDue <;> simp [perform?, live, due]
      | expire =>
          refine .inl ⟨?_, unheard⟩
          cases due : l.channel.requests.nextDeadline? <;> simp [perform?, live, due]
      | _ => exact .inl ⟨by simp [perform?, live], unheard⟩

end

/-! ## The requests -/

section

variable {l l' : Link ρ} {now : Millis} {move : Move} {effects : List (Effect ρ)}

theorem numbered_perform (h : l.perform? now move = some (l', effects))
    (numbered : Numbered l.channel) : Numbered l'.channel := by
  obtain ⟨none_, -⟩ | ⟨l₁, effects₁, performed, moved⟩ := l.perform?_moved now move
  · cases h.symm.trans none_
  · cases h.symm.trans performed
    cases moved with
    | heard o _ occasion channel =>
        obtain ⟨before, -, -⟩ := occasion?_eq occasion
        rw [channel]
        rw [← before] at numbered
        exact numbered.after
    | unheard _ channel =>
        rw [channel]
        exact numbered

/-- A request that waited, or was not looked at, is completed, or waits, or is not looked at. -/
theorem askers_perform (h : l.perform? now move = some (l', effects))
    (numbered : Numbered l.channel) :
    ((effects.filterMap Effect.completion?).map (·.1) ++
      l'.channel.requests.pending.map (·.asker) ++ l'.askers).Perm
      (l.channel.requests.pending.map (·.asker) ++ l.askers) := by
  obtain ⟨none_, -⟩ | ⟨l₁, effects₁, performed, moved⟩ := l.perform?_moved now move
  · cases h.symm.trans none_
  · cases h.symm.trans performed
    cases moved with
    | heard o left occasion channel askers _ askers' completed =>
        obtain ⟨before, live, -⟩ := occasion?_eq occasion
        rw [← before] at numbered
        have here := o.askers_left_perm live numbered.distinct left
        rw [completed, channel, askers, askers', List.map_append, ← before]
        cases last : o.after.ended <;> simpa [last, Function.comp_def] using here
    | unheard _ channel commands completed =>
        rw [completed, channel, askers, askers, commands]
        exact .refl _

end

end Link

end DebugAdapter.Channel
