/-!
# Powers

The powers of numbers are those of the core library, whatever else is in scope: so a definition that
needs no more than that library means the same beside a larger one.
-/
namespace FixGrader

attribute [scoped instance (2000)] instPowNat

end FixGrader
