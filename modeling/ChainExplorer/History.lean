set_option autoImplicit false

namespace ChainExplorer

-- The landing page has no key.
abbrev Visit := Option String

structure History where
  entries : List Visit
  cursor : Nat
  cursor_lt : cursor < entries.length := by decide
deriving Repr, DecidableEq

namespace History

def start : History := { entries := [none], cursor := 0 }

def current (history : History) : Visit := history.entries.get ⟨history.cursor, history.cursor_lt⟩

-- Visiting the current entry once more keeps what is beyond it.
def push (history : History) (visit : Visit) : History :=
  if history.current = visit then history
  else
    { entries := history.entries.take (history.cursor + 1) ++ [visit]
      cursor := history.cursor + 1
      cursor_lt := by
        have bound := history.cursor_lt
        rw [List.length_append, List.length_take, List.length_singleton]
        omega }

def canGoBack (history : History) : Bool := 0 < history.cursor

def canGoForward (history : History) : Bool := history.cursor + 1 < history.entries.length

def back (history : History) : Option History :=
  if history.cursor = 0 then none
  else some { history with
    cursor := history.cursor - 1, cursor_lt := by have := history.cursor_lt; omega }

def forward (history : History) : Option History :=
  if onward : history.cursor + 1 < history.entries.length then
    some { history with cursor := history.cursor + 1, cursor_lt := onward }
  else none

def size (history : History) : Nat := history.entries.length

end History
end ChainExplorer
