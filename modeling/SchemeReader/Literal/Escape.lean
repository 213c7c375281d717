set_option autoImplicit false

namespace SchemeReader.Escape

def meaning? (c : Char) : Option Char :=
  if c = '\\' then some '\\'
  else if c = 'n' then some '\n'
  else if c = 't' then some '\t'
  else if c = 'r' then some '\r'
  else if c = '"' then some '"'
  else none

def unescape : List Char → Except (List Char) (List Char)
  | [] => .ok []
  | c :: rest =>
    if c = '\\' then
      match rest with
      | [] => .error ['\\']
      | letter :: later =>
        match meaning? letter with
        | some plain => (plain :: ·) <$> unescape later
        | none => .error ['\\', letter]
    else (c :: ·) <$> unescape rest

def escapeChar (c : Char) : List Char :=
  if c = '\\' then ['\\', '\\']
  else if c = '"' then ['\\', '"']
  else if c = '\n' then ['\\', 'n']
  else if c = '\t' then ['\\', 't']
  else if c = '\r' then ['\\', 'r']
  else [c]

def escape (text : List Char) : List Char := text.flatMap escapeChar

theorem unescape_escapeChar_append (c : Char) (rest : List Char) :
    unescape (escapeChar c ++ rest) = (c :: ·) <$> unescape rest := by
  unfold escapeChar
  split
  next same => subst same; simp [unescape, meaning?]
  · split
    next same => subst same; simp [unescape, meaning?]
    · split
      next same => subst same; simp [unescape, meaning?]
      · split
        next same => subst same; simp [unescape, meaning?]
        · split
          next same => subst same; simp [unescape, meaning?]
          next plain _ _ _ _ => rw [List.singleton_append, unescape.eq_def]; simp [plain]

theorem unescape_escape (text : List Char) : unescape (escape text) = .ok text := by
  induction text with
  | nil => simp [escape, unescape]
  | cons c rest ih =>
    have split : escape (c :: rest) = escapeChar c ++ escape rest := by simp [escape]
    rw [split, unescape_escapeChar_append, ih]
    rfl

end SchemeReader.Escape
