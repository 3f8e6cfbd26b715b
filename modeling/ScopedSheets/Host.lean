import ScopedSheets.Host.Process

/-!
# The host as an environment
-/

namespace ScopedSheets

instance {σ : Type} [OperatingSystem σ] : Environment (Host σ) where
  list := Host.list
  read := Host.read
  isDirectory := Host.isDirectory
  contains := Host.contains
  write := Host.write
  remove := Host.remove
  run := Host.run

end ScopedSheets
