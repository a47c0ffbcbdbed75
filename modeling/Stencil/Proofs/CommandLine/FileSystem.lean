import Stencil.CommandLine.Directory

set_option autoImplicit false

namespace Stencil

namespace Directory

end Directory

end Stencil
