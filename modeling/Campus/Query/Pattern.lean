/-!
# Wildcard patterns

A pattern literal may have an asterisk as its first character, as its last, or as both; each stands
for any text, the empty one included. Reading a literal settles which of the five shapes it has, and
matching follows the shape.
-/

namespace Campus

/-- A wildcard pattern by shape. -/
inductive Pattern
  | anything
  | containing (text : String)
  | startingWith (text : String)
  | endingWith (text : String)
  | exactly (text : String)
deriving DecidableEq

namespace Pattern

/-- Why a literal is no pattern. -/
inductive Fault
  /-- It has more than two asterisks. -/
  | tooMany (literal : String)
  /-- An asterisk stands inside. -/
  | inside (literal : String)
deriving DecidableEq

/-- The message about a literal that is no pattern. -/
def Fault.message : Fault → String
  | tooMany literal => s!"Too many asterisks in '{literal}'"
  | inside literal => s!"Asterisks may only lead or trail the literal: '{literal}'"

/-- The shape of a literal. -/
def ofLiteral (literal : String) : Except Fault Pattern :=
  let chars := literal.toList
  if 2 < chars.count '*' then .error (.tooMany literal)
  else if chars = ['*'] ∨ chars = ['*', '*'] then .ok .anything
  else
    let leads := chars.head? == some '*'
    let trails := chars.getLast? == some '*'
    let fromStart := if leads then chars.tail else chars
    let inner := if trails then fromStart.dropLast else fromStart
    if inner.contains '*' then .error (.inside literal)
    else
      let text := String.ofList inner
      .ok <| match leads, trails with
        | true, true => .containing text
        | true, false => .endingWith text
        | false, true => .startingWith text
        | false, false => .exactly text

/-- The literal of a pattern. -/
def literal : Pattern → String
  | anything => "*"
  | containing text => "*" ++ text ++ "*"
  | startingWith text => text ++ "*"
  | endingWith text => "*" ++ text
  | exactly text => text

/-- Whether one list of characters occurs in another without gaps. -/
def occursIn (part : List Char) : List Char → Bool
  | [] => part.isEmpty
  | c :: rest => part.isPrefixOf (c :: rest) || occursIn part rest

/-- Whether a text has the shape of the pattern. -/
def accepts (pattern : Pattern) (value : String) : Bool :=
  match pattern with
  | anything => true
  | containing text => occursIn text.toList value.toList
  | startingWith text => text.toList.isPrefixOf value.toList
  | endingWith text => text.toList.isSuffixOf value.toList
  | exactly text => value == text

end Pattern
end Campus
