import FieldFormula.Proofs.Grammar.Reading

/-!
# What happens during a reading

`Reader.Keeps` is a way to prove something of all events of a reading. It goes through a reader in the
order in which it is written: what holds of the answer of one part may be used for the next one, and
there is a lemma for each of the operations. Phrases inside of others are on another level, so that
`Phrase.readersBelow_induction` is the induction for all of them.
-/

namespace FieldFormula

namespace Reader

variable {α β : Type} {good : Event → Prop} {reader : Reader α} {cursor : Cursor}
  {fits : α → Cursor → Prop} {fitsNext : β → Cursor → Prop}

/-- In a reading from the cursor all events are good, giving up included, and an answer fits the
cursor where the reading stops. -/
structure Keeps (good : Event → Prop) (reader : Reader α) (cursor : Cursor)
    (fits : α → Cursor → Prop) : Prop where
  good_of_mem : ∀ event ∈ reader.events cursor, good event
  of_on_ok : ∀ {value after}, reader.on cursor = (.ok value, after) → fits value after
  of_on_error : ∀ {error after}, reader.on cursor = (.error error, after) → good (.fails error)

namespace Keeps

theorem pure {value : α} (here : fits value cursor) : Keeps good (pure value) cursor fits where
  good_of_mem := by simp
  of_on_ok := by
    rintro _ _ ⟨⟩
    exact here
  of_on_error := by
    rintro _ _ ⟨⟩

theorem fail {error : SyntaxError} (fails : good (.fails error)) :
    Keeps good (fail error) cursor fits where
  good_of_mem := by simpa using fails
  of_on_ok := by
    rintro _ _ ⟨⟩
  of_on_error := by
    rintro _ _ ⟨⟩
    exact fails

theorem bind {next : α → Reader β} (first : Keeps good reader cursor fits)
    (rest : ∀ value after, fits value after → Keeps good (next value) after fitsNext) :
    Keeps good (reader >>= next) cursor fitsNext := by
  rcases ended : reader.on cursor with ⟨error | value, after⟩
  · constructor
    case good_of_mem =>
      rw [events_bind, ended]
      exact first.good_of_mem
    case of_on_ok =>
      rw [on_bind, ended]
      rintro _ _ ⟨⟩
    case of_on_error =>
      rw [on_bind, ended]
      rintro _ _ ⟨⟩
      exact first.of_on_error ended
  · have second := rest value after (first.of_on_ok ended)
    constructor
    case good_of_mem =>
      rw [events_bind, ended]
      intro event found
      rcases List.mem_append.1 found with before | now
      · exact first.good_of_mem event before
      · exact second.good_of_mem event now
    case of_on_ok =>
      rw [on_bind, ended]
      exact second.of_on_ok
    case of_on_error =>
      rw [on_bind, ended]
      exact second.of_on_error

theorem mono {weaker : α → Cursor → Prop} (keeps : Keeps good reader cursor fits)
    (weaken : ∀ value after, fits value after → weaker value after) :
    Keeps good reader cursor weaker :=
  { keeps with of_on_ok := fun answers => weaken _ _ (keeps.of_on_ok answers) }

theorem here : Keeps good here cursor fun value after => value = cursor ∧ after = cursor where
  good_of_mem := by simp
  of_on_ok := by
    rintro _ _ ⟨⟩
    exact ⟨rfl, rfl⟩
  of_on_error := by
    rintro _ _ ⟨⟩

theorem move {change : Cursor → Cursor} :
    Keeps good (move change) cursor fun _ after => after = change cursor where
  good_of_mem := by simp
  of_on_ok := by
    rintro _ _ ⟨⟩
    rfl
  of_on_error := by
    rintro _ _ ⟨⟩

theorem note {event : Event} (here : good event) :
    Keeps good (note event) cursor fun _ after => after = cursor where
  good_of_mem := by simpa using here
  of_on_ok := by
    rintro _ _ ⟨⟩
    rfl
  of_on_error := by
    rintro _ _ ⟨⟩

theorem noted {event : Event} (here : good event) (rest : Keeps good reader cursor fits) :
    Keeps good (do Reader.note event; reader) cursor fits := by
  refine bind (note here) ?_
  rintro _ _ rfl
  exact rest

/-! ### The other operations -/

theorem unexpected {token : Token} {wanted : SyntaxError.Wanted}
    (fails : good (.fails ⟨.unexpected token.kind wanted, token.span⟩)) :
    Keeps good (unexpected token wanted) cursor fits :=
  fail fails

theorem peek (looks : good (.looks cursor)) :
    Keeps good peek cursor fun token after => token = cursor.front ∧ after = cursor := by
  refine bind here ?_
  rintro _ _ ⟨rfl, rfl⟩
  exact noted looks (pure ⟨rfl, rfl⟩)

theorem next (looks : good (.looks cursor)) (moves : good (.moves cursor.advance)) :
    Keeps good next cursor fun token after => token = cursor.front ∧ after = cursor.advance := by
  refine bind (peek looks) ?_
  rintro _ _ ⟨rfl, rfl⟩
  refine bind move ?_
  rintro _ _ rfl
  refine bind here ?_
  rintro _ _ ⟨rfl, rfl⟩
  exact noted moves (pure ⟨rfl, rfl⟩)

theorem enter {maxDepth : Nat} {span : Span}
    (full : maxDepth ≤ cursor.guard → good (.fails ⟨.nestingTooDeep maxDepth, span⟩)) :
    Keeps good (enter maxDepth span) cursor fun _ after =>
      cursor.guard < maxDepth ∧ after = cursor.enter := by
  refine bind here ?_
  rintro _ _ ⟨rfl, rfl⟩
  split
  case isTrue tooDeep => exact fail (full tooDeep)
  case isFalse room => exact move.mono fun _ _ moved => ⟨Nat.lt_of_not_le room, moved⟩

theorem leave (leaves : good (.leaves cursor)) :
    Keeps good leave cursor fun _ after => after = cursor.leave := by
  refine bind here ?_
  rintro _ _ ⟨rfl, rfl⟩
  exact noted leaves move

theorem nested {maxDepth : Nat} {span : Span}
    (full : maxDepth ≤ cursor.guard → good (.fails ⟨.nestingTooDeep maxDepth, span⟩))
    (phrase : cursor.guard < maxDepth → Keeps good reader cursor.enter fun value after =>
      good (.leaves after) ∧ fits value after.leave) :
    Keeps good (nested maxDepth span reader) cursor fits := by
  refine bind (enter full) ?_
  rintro _ _ ⟨room, rfl⟩
  refine bind (phrase room) fun value after ended => bind (leave ended.1) ?_
  rintro _ _ rfl
  exact pure ended.2

theorem expect {kind : Token.Kind} {wanted : SyntaxError.Wanted} (looks : good (.looks cursor))
    (moves : good (.moves cursor.advance)) (expects : good (.expects kind cursor.front))
    (missing : cursor.front.kind ≠ kind →
      good (.fails ⟨.unexpected cursor.front.kind wanted, cursor.front.span⟩)) :
    Keeps good (expect kind wanted) cursor fun _ after =>
      cursor.front.kind = kind ∧ after = cursor.advance := by
  refine bind (next looks moves) ?_
  rintro _ _ ⟨rfl, rfl⟩
  refine noted expects ?_
  split
  case isTrue met => exact pure ⟨met, rfl⟩
  case isFalse unmet => exact unexpected (missing unmet)

theorem build {formula : Formula} {fits : Formula → Cursor → Prop} (builds : good (.builds formula))
    (here : fits formula cursor) : Keeps good (build formula) cursor fits :=
  noted builds (pure here)

end Keeps

end Reader

namespace Phrase

variable {maxDepth : Nat} {good : Event → Prop} {cursor : Cursor}

theorem keeps_refuseCall {operand : Formula} (looks : good (.looks cursor))
    (called : cursor.front.kind = .openParen →
      good (.fails ⟨.call operand.identifier?, cursor.front.span⟩)) :
    (refuseCall operand).Keeps good cursor fun _ after =>
      cursor.front.kind ≠ .openParen ∧ after = cursor := by
  refine .bind (.peek looks) ?_
  rintro _ _ ⟨rfl, rfl⟩
  split
  case isTrue call => exact .fail (called call)
  case isFalse noCall => exact .pure ⟨noCall, rfl⟩

theorem Chain.keeps_link {left : Chain} {span : Span} {op : InfixOp} {right : Formula}
    (deep : maxDepth < 1 + max left.depth right.depth →
      good (.fails ⟨.chainTooDeep maxDepth, span⟩))
    (builds : 1 + max left.depth right.depth ≤ maxDepth →
      good (.builds (.ofInfix op left.formula right))) :
    (left.link maxDepth span op right).Keeps good cursor fun longer after =>
      longer = left.extend op right ∧ 1 + max left.depth right.depth ≤ maxDepth ∧
        after = cursor := by
  unfold Chain.link
  split
  case isTrue tooDeep => exact .fail (deep tooDeep)
  case isFalse notDeep =>
    have shallow := Nat.le_of_not_lt notDeep
    exact .noted (builds shallow) (.pure ⟨rfl, shallow, rfl⟩)

/-! ### Levels -/

theorem readersBelow_succ (maxDepth levels : Nat) :
    readersBelow maxDepth (levels + 1) = readers maxDepth (readersBelow maxDepth levels) := by
  cases levels <;> rfl

/-- What holds of the phrases of a level whenever it holds of those below it holds on every level. -/
theorem readersBelow_induction {motive : Phrase → Reader Formula → Prop}
    (refuse : ∀ phrase, motive phrase (refuseDeeper maxDepth phrase))
    (level : ∀ deeper, (∀ phrase, motive phrase (deeper phrase)) →
      ∀ phrase, motive phrase (readers maxDepth deeper phrase))
    (levels : Nat) (phrase : Phrase) : motive phrase (readersBelow maxDepth levels phrase) := by
  induction levels generalizing phrase with
  | zero => exact refuse phrase
  | succ levels ih =>
    rw [readersBelow_succ]
    exact level _ ih phrase

end Phrase

end FieldFormula
