namespace FrontendAtlas.Text

abbrev Table := List (Nat × Nat)

def Table.has (table : Table) (c : Char) : Bool :=
  table.any fun range => range.1 ≤ c.toNat && c.toNat ≤ range.2

end FrontendAtlas.Text
