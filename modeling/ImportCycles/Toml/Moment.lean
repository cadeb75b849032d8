import ImportCycles.Toml.Quoted

/-! # Dates and times

A day, a time of day, or both; with both, the distance to universal time may follow. Only whether a
text is one of these is asked, and if it is none, the first part of it that is missing or too great.
-/

namespace ImportCycles.Toml

/-- The number that digits spell in a base. -/
def digitsValue (base : Nat) (digits : List Char) : Nat :=
  digits.foldl (fun n c => base * n + (hexValue? c).getD 0) 0

namespace Moment

/-- What has been read of a date or time, or why it cannot be read. -/
abbrev Reading (α : Type) := Except MomentProblem α

/-- The parts of a date or time: runs of digits, and all other characters one by one. -/
def parts (text : List Char) : List (List Char) :=
  text.splitBy fun c d => c.isDigit && d.isDigit

/-- The digits that come next, and what follows them. -/
def digits (subject expected : String) : List (List Char) → Reading (List Char × List (List Char))
  | part :: rest =>
    if part.all Char.isDigit then .ok (part, rest) else .error ⟨subject, some expected⟩
  | [] => .error ⟨subject, some expected⟩

/-- What follows the sign that comes next. -/
def after (sign : Char) (subject expected : String) :
    List (List Char) → Reading (List (List Char))
  | part :: rest => if part = [sign] then .ok rest else .error ⟨subject, some expected⟩
  | [] => .error ⟨subject, some expected⟩

/-- Refuses a part of the text unless the condition holds. -/
def require (condition : Bool) (subject expected : String) : Reading Unit :=
  if condition then .ok () else .error ⟨subject, some expected⟩

/-- The number of days in a month. -/
def daysIn (year month : Nat) : Nat :=
  if month = 2 then
    if year % 4 = 0 ∧ (year % 100 ≠ 0 ∨ year % 400 = 0) then 29 else 28
  else if month ∈ [4, 6, 9, 11] then 30
  else 31

/-- What follows a day whose year was read. -/
def afterDate (yearDigits : List Char) (text : List (List Char)) :
    Reading (List (List Char)) := do
  let (monthDigits, text) ← digits "date" "month" text
  let text ← after '-' "date" "`-` (MM-DD)" text
  let (dayDigits, text) ← digits "date" "day" text
  require (yearDigits.length = 4) "date" "a four-digit year (YYYY)"
  require (monthDigits.length = 2) "date" "a two-digit month (MM)"
  require (dayDigits.length = 2) "date" "a two-digit day (DD)"
  let month := digitsValue 10 monthDigits
  let day := digitsValue 10 dayDigits
  let last := daysIn (digitsValue 10 yearDigits) month
  require (1 ≤ month && month ≤ 12) "date" "month between 01 and 12"
  require (1 ≤ day && day ≤ last) "date" ("day between 01 and " ++ toString last)
  return text

/-- Digits that follow a sign, if it comes next, and what follows them. -/
def digitsAfter? (sign : Char) (expected : String) (text : List (List Char)) :
    Reading (Option (List Char) × List (List Char)) :=
  match text with
  | part :: rest =>
    if part = [sign] then (digits "time" expected rest).map fun (found, rest) => (some found, rest)
    else .ok (none, text)
  | [] => .ok (none, [])

/-- What follows a time of day: hours and minutes, and perhaps seconds and a fraction of one. -/
def afterTime (text : List (List Char)) : Reading (List (List Char)) := do
  let (hour, text) ← digits "time" "hour" text
  let text ← after ':' "time" "`:` (HH:MM)" text
  let (minute, text) ← digits "time" "minute" text
  let (second, text) ← digitsAfter? ':' "second" text
  let (_, text) ←
    if second.isSome then digitsAfter? '.' "nanosecond" text else .ok (none, text)
  require (hour.length = 2) "time" "a two-digit hour (HH)"
  require (minute.length = 2) "time" "a two-digit minute (MM)"
  require (second.all (·.length = 2)) "time" "a two-digit second (SS)"
  require (digitsValue 10 hour ≤ 23) "time" "hour between 00 and 23"
  require (digitsValue 10 minute ≤ 59) "time" "minute between 00 and 59"
  require (second.all (digitsValue 10 · ≤ 60)) "time" "second between 00 and 60"
  return text

/-- What follows the distance to universal time, if anything comes next. -/
def afterOffset (text : List (List Char)) : Reading (List (List Char)) :=
  match text with
  | [] => .ok []
  | ['Z'] :: text | ['z'] :: text => .ok text
  | ['+'] :: text | ['-'] :: text => do
    let (hour, text) ← digits "offset" "hour" text
    let text ← after ':' "offset" "`:` (HH:MM)" text
    let (minute, text) ← digits "offset" "minute" text
    require (hour.length = 2) "offset" "a two-digit hour (HH)"
    require (minute.length = 2) "offset" "a two-digit minute (MM)"
    require (digitsValue 10 hour ≤ 23) "offset" "hours between 00 and 23"
    require (digitsValue 10 minute ≤ 59) "offset" "minutes between 00 and 59"
    return text
  | _ => .error ⟨"offset", some "`Z`, +OFFSET, -OFFSET"⟩

/-- What follows a date and time. -/
def afterMoment (text : List (List Char)) : Reading (List (List Char)) := do
  let (first, rest) ← digits "datetime" "year or hour" text
  match rest with
  | ['-'] :: rest =>
    match ← afterDate first rest with
    | [] => return []
    | ['T'] :: rest | ['t'] :: rest | [' '] :: rest => afterOffset (← afterTime rest)
    | _ => throw ⟨"date-time", some "`T` between date and time"⟩
  | [':'] :: _ => afterTime text
  | _ => throw ⟨"datetime", some "`-` (YYYY-MM) or `:` (HH:MM)"⟩

/-- Accepts a text that is a date, a time or both. -/
def check (text : List Char) : Reading Unit := do
  unless (← afterMoment (parts text)).isEmpty do throw ⟨"datetime", none⟩

end Moment

end ImportCycles.Toml
